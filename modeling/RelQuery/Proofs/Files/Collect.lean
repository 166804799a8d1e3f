import RelQuery.Files.Read
import RelQuery.Proofs.Files.Load
import RelQuery.Proofs.Files.Tree
import RelQuery.Proofs.Text.Utf8

/-!
# Which files are collected

Every argument adds files of its own behind those of the arguments before it: a directory the tables
among the entries that it lists, in the order of their paths, and a table itself. Anything else adds
one line to the log (`Contributes`). This leaves no choice, so that the order in which directories
list their entries cannot matter (`Contributes.unique`, `collectFiles_reordered`). For every file
that is collected there is a format to read it in (`collectFiles_contributions`).

A directory adds no more than it lists. If it cannot be listed it adds nothing, not even to the log,
and neither does a file in it whose path is too long to lead there
(`not_collectFiles_contributions`).
-/

namespace RelQuery

/-! ## Formats -/

/-- There is a format for the extensions of tables and for no other one. -/
theorem Format.mem_tableExtensions_iff {extension : Text} :
    extension ∈ Path.tableExtensions ↔ ∃ format, ofExtension? extension = some format := by
  rw [← Option.isSome_iff_exists, Path.tableExtensions, ofExtension?]
  split_ifs <;> simp_all

/-- A table has an extension that there is a format for. -/
theorem Path.isTable_iff {α : Type} [DecidableEq α] [PathChar α] {path : List α} :
    isTable path ↔ ∃ extension format,
      extensionText? path = some extension ∧ Format.ofExtension? extension = some format := by
  rw [isTable, Option.any_eq_true]
  refine exists_congr fun extension => ?_
  rw [exists_and_left, ← Format.mem_tableExtensions_iff, List.contains_iff_mem]

/-! ## Disks -/

/-- Places of one kind; directories of which either lists the same names in some order. -/
inductive Place.Alike {α : Type} : Place α → Place α → Prop where
  | file : Alike .file .file
  | directory {listing others : Option (List (Option (List α)))}
      (perm : (entryNames listing).Perm (entryNames others)) :
      Alike (.directory listing) (.directory others)

/-- Disks with the same files, on which directories list the same names in some order. -/
def Disk.Alike {α : Type} (disk other : Disk α) : Prop :=
  ∀ path, Option.Rel Place.Alike (disk.find? path) (other.find? path)

/-- The names that directories list are such as their entries may have. -/
def Disk.Proper {α : Type} [PathChar α] (disk : Disk α) : Prop :=
  ∀ path listing, disk.find? path = some (.directory listing) →
    Path.AreFileNames (entryNames listing)

/-- The same paths lead to files. -/
theorem Disk.Alike.isFile_eq {α : Type} {disk other : Disk α} (h : disk.Alike other)
    (path : List α) : other.isFile path = disk.isFile path := by
  have hpath := h path
  unfold isFile
  generalize disk.find? path = found, other.find? path = alike at hpath
  cases hpath with
  | none => rfl
  | some hpath => cases hpath <;> rfl

/-- Where the same names are listed they are as proper. -/
theorem Disk.Alike.proper {α : Type} [PathChar α] {disk other : Disk α} (h : disk.Alike other)
    (hproper : disk.Proper) : other.Proper := by
  intro path listing hother
  have hpath := h path
  rw [hother] at hpath
  generalize hfound : disk.find? path = found at hpath
  cases hpath with
  | some hpath =>
      cases hpath with
      | directory hperm => exact (hproper path _ hfound).of_perm hperm

namespace Loader

/-! ## One argument -/

section Contributions

variable {α : Type} [DecidableEq α] [PathChar α]
variable {disk other : Disk α} {argument directory file : List α}
variable {listing others : Option (List (Option (List α)))} {found alike : Option (Place α)}
variable {files moreFiles paths : List (List α)} {lines moreLines : List LogLine}

/-- The tables among the entries that a directory lists, each once and in the order of their
paths. -/
structure TablesWithin (disk : Disk α) (directory : List α)
    (listing : Option (List (Option (List α)))) (files : List (List α)) : Prop where
  mem_iff : ∀ file, file ∈ files ↔ ∃ name ∈ entryNames listing,
    file = Path.within directory name ∧ disk.isFile file ∧ Path.isTable file
  increasing : files.Pairwise fun left right => Path.compare left right = .lt

/-- The files that an argument adds and the lines that it adds to the log, when it leads to what is
found. -/
inductive Contributes (disk : Disk α) (argument : List α) :
    Option (Place α) → List (List α) → List LogLine → Prop where
  | directory {listing : Option (List (Option (List α)))} {files : List (List α)}
      (tables : TablesWithin disk argument listing files) :
      Contributes disk argument (some (.directory listing)) files []
  | table (table : Path.isTable argument) :
      Contributes disk argument (some .file) [argument] []
  | otherFile (other : ¬ Path.isTable argument) :
      Contributes disk argument (some .file) [] [skippedLine argument]
  | nothing : Contributes disk argument none [] [skippedLine argument]

/-- The tables in a directory are entries that lead to files and are named as tables. -/
theorem mem_tablesIn : file ∈ tablesIn disk directory listing ↔ ∃ name ∈ entryNames listing,
    file = Path.within directory name ∧ disk.isFile file ∧ Path.isTable file := by
  simp only [tablesIn, List.mem_mergeSort, List.mem_filter, List.mem_map, Bool.and_eq_true]
  constructor
  · intro h
    obtain ⟨⟨name, hname, rfl⟩, hkind⟩ := h
    exact ⟨name, hname, rfl, hkind⟩
  · intro h
    obtain ⟨name, hname, rfl, hkind⟩ := h
    exact ⟨⟨name, hname, rfl⟩, hkind⟩

/-- Entries with names of their own have different paths, so sorting leaves them no choice. -/
theorem pairwise_tablesIn (h : Path.AreFileNames (entryNames listing)) :
    (tablesIn disk directory listing).Pairwise fun left right =>
      Path.compare left right = .lt := by
  refine Path.pairwise_mergeSort_lt (List.Pairwise.filter _ (List.pairwise_map.2 ?_))
  refine h.nodup.imp_of_mem ?_
  intro left right hleft hright hne heq
  exact hne (Path.eq_of_components_within (h.isFileName left hleft) (h.isFileName right hright)
    (Path.compare_eq_eq_iff.1 heq))

/-- The tables in increasing order are what sorting makes of them. -/
theorem tablesIn_eq_of_perm (h : Path.AreFileNames (entryNames listing))
    (hperm : (((entryNames listing).map (Path.within directory)).filter fun path =>
      disk.isFile path && Path.isTable path).Perm files)
    (hincreasing : files.Pairwise fun left right => Path.compare left right = .lt) :
    tablesIn disk directory listing = files :=
  Path.eq_of_perm_of_increasing ((List.mergeSort_perm _ _).trans hperm) (pairwise_tablesIn h)
    hincreasing

/-- They are the tables in the directory. -/
theorem tablesWithin_tablesIn (h : Path.AreFileNames (entryNames listing)) :
    TablesWithin disk directory listing (tablesIn disk directory listing) where
  mem_iff _ := mem_tablesIn
  increasing := pairwise_tablesIn h

/-- There is only one such list, whatever the order of the entries. -/
theorem TablesWithin.unique (h : TablesWithin disk directory listing files)
    (hmore : TablesWithin other directory others moreFiles) (halike : disk.Alike other)
    (hperm : (entryNames listing).Perm (entryNames others)) : files = moreFiles := by
  have hnodup {files : List (List α)}
      (h : files.Pairwise fun left right => Path.compare left right = .lt) : files.Nodup := by
    refine h.imp ?_
    intro left right hlt heq
    subst heq
    exact Path.compare_asymm hlt hlt
  have hmem (file : List α) : file ∈ files ↔ file ∈ moreFiles := by
    rw [h.mem_iff, hmore.mem_iff]
    simp only [hperm.mem_iff, halike.isFile_eq]
  have hfiles : files.Perm moreFiles :=
    (List.perm_ext_iff_of_nodup (hnodup h.increasing) (hnodup hmore.increasing)).2 hmem
  exact Path.eq_of_perm_of_increasing hfiles h.increasing hmore.increasing

/-- What an argument adds is determined by what listing shows. -/
theorem Contributes.unique (h : Contributes disk argument found files lines)
    (hmore : Contributes other argument alike moreFiles moreLines) (halike : disk.Alike other)
    (hfound : Option.Rel Place.Alike found alike) : files = moreFiles ∧ lines = moreLines := by
  cases hfound with
  | none =>
      cases h
      cases hmore
      exact ⟨rfl, rfl⟩
  | some hfound =>
      cases hfound with
      | file =>
          cases h with
          | table htable =>
              cases hmore with
              | table => exact ⟨rfl, rfl⟩
              | otherFile hother => exact absurd htable hother
          | otherFile hother =>
              cases hmore with
              | table htable => exact absurd htable hother
              | otherFile => exact ⟨rfl, rfl⟩
      | directory hperm =>
          cases h with
          | directory htables =>
              cases hmore with
              | directory hmore => exact ⟨htables.unique hmore halike hperm, rfl⟩

/-! ## All arguments -/

/-- The lines that an argument adds to the log. -/
def linesAt (disk : Disk α) (path : List α) : List LogLine :=
  if (filesAt disk path).isNone then [skippedLine path] else []

/-- The arguments that are skipped add the lines about them. -/
theorem skippedLog_eq_flatMap : skippedLog disk paths = paths.flatMap (linesAt disk) := by
  induction paths with
  | nil => rfl
  | cons path paths ih =>
      rw [List.flatMap_cons, ← ih, linesAt, skippedLog, List.filter_cons]
      split <;> rfl

/-- Every argument adds what it should. -/
theorem contributes_filesAt (hproper : disk.Proper) (path : List α) :
    Contributes disk path (disk.find? path) ((filesAt disk path).getD []) (linesAt disk path) := by
  unfold linesAt filesAt
  cases hfound : disk.find? path with
  | none => exact .nothing
  | some place =>
      cases place with
      | directory listing =>
          exact .directory (tablesWithin_tablesIn (hproper path listing hfound))
      | file =>
          by_cases htable : Path.isTable path
          · simp only [if_pos htable]
            exact .table htable
          · simp only [if_neg htable]
            exact .otherFile htable

/-- What is collected and what is skipped depends only on what listing shows, and in no order. -/
theorem collectFiles_of_alike (hproper : disk.Proper) (halike : disk.Alike other) :
    collectFiles other paths = collectFiles disk paths ∧
      skippedLog other paths = skippedLog disk paths := by
  have hsame (path : List α) := (contributes_filesAt hproper path).unique
    (contributes_filesAt (halike.proper hproper) path) halike (halike path)
  constructor
  · simp only [collectFiles, (hsame _).1]
  · rw [skippedLog_eq_flatMap, skippedLog_eq_flatMap, funext fun path => (hsame path).2]

end Contributions

/-! ## Trees -/

section Trees

variable {root tree : FileTree} {entries : List (Text × FileTree)} {directory name file : Text}
variable {paths : List Text}

/-- What a path leads to in a tree shows on the disk. -/
theorem find?_ofLook (root : FileTree) (path : Text) :
    (Disk.ofLook root.find?).find? path = (root.find? path).map FileTree.place := rfl

/-- A directory of a tree lists the names of its entries. -/
theorem find?_ofLook_directory (h : root.find? directory = some (.directory entries)) :
    (Disk.ofLook root.find?).find? directory =
      some (.directory (some (entries.map fun entry => some entry.1))) := by
  rw [find?_ofLook, h]
  rfl

/-- All of these can be read. -/
theorem entryNames_entries (entries : List (Text × FileTree)) :
    entryNames (some (entries.map fun entry => some entry.1)) = entries.map Prod.fst := by
  rw [entryNames, Option.getD_some, List.filterMap_map]
  exact congrFun (List.filterMap_eq_map (f := Prod.fst)) entries

/-- The directories of a proper tree list names that their entries may have. -/
theorem proper_ofLook (h : root.Proper) : (Disk.ofLook root.find?).Proper := by
  intro path listing hfound
  rw [find?_ofLook, Option.map_eq_some_iff] at hfound
  obtain ⟨tree, hfind, hplace⟩ := hfound
  cases h.find? hfind with
  | file content => cases hplace
  | directory entriesProper inner =>
      obtain rfl := Place.directory.inj hplace
      rw [entryNames_entries]
      exact entriesProper

/-- Paths lead to the same places of a tree in which entries have another order. -/
theorem alike_ofLook (h : root.Reordered tree) :
    (Disk.ofLook root.find?).Alike (Disk.ofLook tree.find?) := by
  intro path
  rw [find?_ofLook, find?_ofLook]
  have hpath := h.find? path
  generalize root.find? path = left, tree.find? path = right at hpath
  cases hpath with
  | none => exact .none
  | some hpath =>
      cases hpath with
      | file content => exact .some .file
      | directory entriesProper names inner =>
          refine .some (.directory ?_)
          rw [entryNames_entries, entryNames_entries]
          exact names

/-- The order of entries anywhere in a tree does not matter. -/
theorem collectFiles_reordered (h : root.Reordered tree) :
    collectFiles tree.find? paths = collectFiles root.find? paths ∧
      skippedLog tree.find? paths = skippedLog root.find? paths :=
  collectFiles_of_alike (proper_ofLook h.proper) (alike_ofLook h)

/-- A path leads to a file of a tree as it would without its content. -/
theorem isFile_ofLook {path : Text} : (Disk.ofLook root.find?).isFile path ↔
    ∃ content, root.find? path = some (.file content) := by
  rw [Disk.isFile, find?_ofLook]
  cases root.find? path with
  | none => simp
  | some tree => cases tree <;> simp [FileTree.place]

/-- The path of an entry leads to a file if the entry is one and the path is not too long. -/
theorem isFile_within (hfind : root.find? directory = some (.directory entries))
    (hentries : FileTree.ProperEntries entries) (hname : Path.IsFileName name) :
    (Disk.ofLook root.find?).isFile (Path.within directory name) ↔
      Text.utf8Length (Path.within directory name) < FileTree.pathLimit ∧
      ∃ content, (name, .file content) ∈ entries := by
  rw [isFile_ofLook, FileTree.find?_within hfind hname]
  by_cases hlong : FileTree.pathLimit ≤ Text.utf8Length (Path.within directory name)
  · simp [hlong]
  · rw [if_neg hlong, and_iff_right (Nat.lt_of_not_le hlong)]
    exact exists_congr fun content => ⟨FileTree.mem_of_lookup, hentries.lookup_eq_some⟩

/-- From a directory of a tree all files right inside it are collected that are named as tables and
have a path short enough to lead there. -/
theorem mem_collectFiles_tree_iff (h : root.Proper)
    (hfind : root.find? directory = some (.directory entries)) :
    file ∈ collectFiles root.find? [directory] ↔ ∃ name content,
      (name, .file content) ∈ entries ∧ file = Path.within directory name ∧ Path.isTable name ∧
      Text.utf8Length file < FileTree.pathLimit := by
  have hentries : FileTree.ProperEntries entries := by
    cases h.find? hfind with
    | directory entriesProper inner => exact entriesProper
  have hcollect : collectFiles (Disk.ofLook root.find?) [directory] =
      tablesIn root.find? directory (some (entries.map fun entry => some entry.1)) := by
    rw [collectFiles, List.flatMap_singleton, filesAt, find?_ofLook_directory hfind]
    rfl
  rw [hcollect, mem_tablesIn, entryNames_entries]
  constructor
  · intro h
    obtain ⟨name, hname, rfl, hleads, htable⟩ := h
    have hfilename := hentries.isFileName name hname
    obtain ⟨hshort, content, hentry⟩ := (isFile_within hfind hentries hfilename).1 hleads
    rw [Path.isTable_within hfilename] at htable
    exact ⟨name, content, hentry, rfl, htable, hshort⟩
  · intro h
    obtain ⟨name, content, hentry, rfl, htable, hshort⟩ := h
    have hname := List.mem_map_of_mem (f := Prod.fst) hentry
    have hfilename := hentries.isFileName name hname
    rw [← Path.isTable_within hfilename] at htable
    have hleads := (isFile_within hfind hentries hfilename).2 ⟨hshort, content, hentry⟩
    exact ⟨name, hname, rfl, hleads, htable⟩

end Trees

/-! ## All that is collected -/

/-- On a disk on which the entries of a directory have names of their own, what is collected is what
the arguments add, one after the other, and so are the lines of the log. It is the same on every
disk on which directories list the same in another order. For each file that is collected there is a
format that it is read in, so that there is no error about its extension, even if the files have
changed since. -/
theorem collectFiles_contributions {α : Type} [DecidableEq α] [PathChar α] (disk : Disk α)
    (paths : List (List α)) (hproper : disk.Proper) :
    (∃ parts : List (List (List α) × List LogLine),
      List.Forall₂ (fun path part => Contributes disk path (disk.find? path) part.1 part.2)
        paths parts ∧
      collectFiles disk paths = parts.flatMap Prod.fst ∧
      skippedLog disk paths = parts.flatMap Prod.snd) ∧
    (∀ other : Disk α, disk.Alike other →
      collectFiles other paths = collectFiles disk paths ∧
      skippedLog other paths = skippedLog disk paths) ∧
    (∀ file ∈ collectFiles disk paths, ∃ extension format,
      Path.extensionText? file = some extension ∧ Format.ofExtension? extension = some format ∧
      ∀ now : Disk α, loadFile now file = (now.read format file).mapError .file ∧
        loadFile now file ≠ .error .noExtension ∧
        ∀ other, loadFile now file ≠ .error (.unsupportedExtension other)) := by
  refine ⟨?_, ?_, ?_⟩
  · refine ⟨paths.map fun path => ((filesAt disk path).getD [], linesAt disk path), ?_, ?_, ?_⟩
    · rw [List.forall₂_map_right_iff, List.forall₂_same]
      intro path _
      exact contributes_filesAt hproper path
    · rw [List.flatMap_map]
      rfl
    · rw [List.flatMap_map]
      exact skippedLog_eq_flatMap
  · intro other halike
    exact collectFiles_of_alike hproper halike
  · intro file hfile
    obtain ⟨extension, format, hextension, hformat⟩ :=
      Path.isTable_iff.1 (of_mem_collectFiles hfile).2
    refine ⟨extension, format, hextension, hformat, fun now => ?_⟩
    have hload : loadFile now file = (now.read format file).mapError .file := by
      simp only [loadFile, hextension, hformat]
    rw [hload]
    cases now.read format file with
    | error error => exact ⟨rfl, nofun, nofun⟩
    | ok frame => exact ⟨rfl, nofun, nofun⟩

/-- Here a dot in front begins no extension, a directory is no table though it is named like one,
and an argument may stand for what another one has added before. -/
theorem collectFiles_contributions_reversed :
    let entries : List (Text × FileTree) :=
      [("b.csv".toList, .file "A".toList), (".csv".toList, .file []),
        ("sub.csv".toList, .directory [("c.ipc".toList, .file [])]),
        ("notes.txt".toList, .file []), ("a.parquet".toList, .file []),
        ("a.b.csv".toList, .file [])]
    let disk : Disk Char := .ofLook (FileTree.directory entries).find?
    let other : Disk Char := .ofLook (FileTree.directory entries.reverse).find?
    let paths := [".".toList, "notes.txt".toList, "sub.csv".toList, "sub.csv/c".toList,
      "b.csv".toList]
    disk.Proper ∧ disk.Alike other ∧
    collectFiles disk paths = ["./a.b.csv".toList, "./a.parquet".toList, "./b.csv".toList,
      "sub.csv/c.ipc".toList, "b.csv".toList] ∧
    collectFiles other paths = collectFiles disk paths ∧
    skippedLog disk paths = [skippedLine "notes.txt".toList, skippedLine "sub.csv/c".toList] ∧
    (∀ now : Disk Char, loadFile now "./a.b.csv".toList =
      (now.read .csv "./a.b.csv".toList).mapError .file) := by
  intro entries disk other paths
  have hinner : FileTree.Proper (.directory [("c.ipc".toList, .file [])]) :=
    .directory (by decide) (List.forall_mem_singleton.2 (.file []))
  have hsame : ∀ entry ∈ entries, entry.2.Reordered entry.2 := by
    simp only [entries, List.forall_mem_cons]
    exact ⟨.file _, .file _, hinner.reordered, .file _, .file _, .file _, List.forall_mem_nil _⟩
  have hreordered : FileTree.Reordered (.directory entries) (.directory entries.reverse) :=
    .of_perm (by decide) hsame (List.reverse_perm entries).symm
  have hproper : disk.Proper := proper_ofLook hreordered.proper
  have halike : disk.Alike other := alike_ofLook hreordered
  have hhere : filesAt disk ".".toList =
      some ["./a.b.csv".toList, "./a.parquet".toList, "./b.csv".toList] :=
    congrArg some (tablesIn_eq_of_perm (by decide) (by decide) (by decide))
  have hnotes : filesAt disk "notes.txt".toList = none := rfl
  have hsub : filesAt disk "sub.csv".toList = some ["sub.csv/c.ipc".toList] :=
    congrArg some (tablesIn_eq_of_perm (by decide) (by decide) (by decide))
  have hnothing : filesAt disk "sub.csv/c".toList = none := rfl
  have htable : filesAt disk "b.csv".toList = some ["b.csv".toList] := rfl
  have hfiles : collectFiles disk paths = ["./a.b.csv".toList, "./a.parquet".toList,
      "./b.csv".toList, "sub.csv/c.ipc".toList, "b.csv".toList] := by
    simp only [collectFiles, paths, List.flatMap_cons, hhere, hnotes, hsub, hnothing, htable]
    rfl
  have hskipped : skippedLog disk paths =
      [skippedLine "notes.txt".toList, skippedLine "sub.csv/c".toList] := by
    simp only [skippedLog_eq_flatMap, paths, List.flatMap_cons, linesAt, hhere, hnotes, hsub,
      hnothing, htable]
    rfl
  obtain ⟨-, hlisted, hload⟩ := collectFiles_contributions disk paths hproper
  refine ⟨hproper, halike, hfiles, (hlisted other halike).1, hskipped, ?_⟩
  intro now
  obtain ⟨extension, format, hextension, hformat, hread⟩ :=
    hload "./a.b.csv".toList (by rw [hfiles]; decide)
  obtain rfl : "csv".toList = extension := Option.some.inj (Eq.trans (by decide) hextension)
  obtain rfl : Format.csv = format := Option.some.inj (Eq.trans (by decide) hformat)
  exact (hread now).1

/-- A directory that cannot be listed adds nothing to what is collected and nothing to the log. -/
theorem collectFiles_of_not_listed {disk : Disk Char} {directory : Text}
    (h : disk.find? directory = some (.directory none)) :
    collectFiles disk [directory] = [] ∧ skippedLog disk [directory] = [] := by
  have hfiles : filesAt disk directory = some [] := by
    simp only [filesAt, h, tablesIn, entryNames, Option.getD_none, List.filterMap_nil,
      List.map_nil, List.filter_nil, List.mergeSort_nil]
  rw [collectFiles, List.flatMap_singleton, skippedLog, List.filter_cons, hfiles]
  exact ⟨rfl, rfl⟩

/-- A path of dots with slashes between them. -/
def dots : Nat → Text
  | 0 => ['.']
  | n + 1 => dots n ++ ['/', '.']

/-- Its parts are dots. -/
theorem splitOn_dots (n : Nat) : Text.splitOn '/' (dots n) = List.replicate (n + 1) ['.'] := by
  induction n with
  | zero => rfl
  | succ n ih =>
      have hsplit : Text.splitOn '/' (dots n ++ '/' :: ['.']) =
          Text.splitOn '/' (dots n) ++ [['.']] := Path.splitOn_append_slash (by decide)
      rw [dots, hsplit, ih]
      exact List.replicate_succ'.symm

/-- It has a slash for each dot behind the first one. -/
theorem utf8Length_dots (n : Nat) : Text.utf8Length (dots n) = 2 * n + 1 := by
  induction n with
  | zero => rfl
  | succ n ih =>
      rw [dots, Text.utf8Length_append, ih]
      rfl

/-- It begins with a dot. -/
theorem head?_dots (n : Nat) : (dots n).head? = some '.' := by
  induction n with
  | zero => rfl
  | succ n ih => rw [dots, List.head?_append, ih, Option.some_or]

/-- It ends with a dot, and so names that are put behind it have a slash in front. -/
theorem within_dots (n : Nat) (name : Text) :
    Path.within (dots n) name = dots n ++ '/' :: name := by
  have hlast : (dots n).getLast? = some '.' := by
    cases n with
    | zero => rfl
    | succ n => rw [dots, List.getLast?_append_of_ne_nil _ (by simp)]; rfl
  have hempty : (dots n).isEmpty = false := by
    cases n <;> simp [dots]
  have hslash : '.' ≠ (PathChar.slash : Char) := by decide
  rw [Path.within, if_neg (by simp [hempty, hlast, hslash])]
  rfl

/-- It leads to where it begins, as long as it is short enough. -/
theorem find?_dots (entries : List (Text × FileTree)) {n : Nat}
    (h : 2 * n + 1 < FileTree.pathLimit) :
    (FileTree.directory entries).find? (dots n) = some (.directory entries) := by
  have hshort : ¬ FileTree.pathLimit ≤ Text.utf8Length (dots n) := by
    rw [utf8Length_dots]
    exact not_le.2 h
  have hempty : (dots n).isEmpty = false := by
    cases n <;> simp [dots]
  rw [FileTree.find?, if_neg (by simp [head?_dots, hshort, hempty]), splitOn_dots,
    FileTree.follow_dots]

/-- A directory that cannot be listed adds nothing to what is collected though there is a table in
it, and it adds nothing to the log. So does one that can be listed if the paths of its entries are
too long. -/
theorem not_collectFiles_contributions :
    (¬ ∀ (disk : Disk Char) (directory name : Text) listing, disk.Proper →
      disk.find? directory = some (.directory listing) → Path.IsFileName name →
      disk.isFile (Path.within directory name) → Path.isTable (Path.within directory name) →
      Path.within directory name ∈ collectFiles disk [directory] ∨
        skippedLog disk [directory] = [skippedLine directory]) ∧
    ¬ ∀ (root : FileTree) (directory : Text) entries name content, root.Proper →
      root.find? directory = some (.directory entries) → (name, .file content) ∈ entries →
      Path.isTable name →
      Path.within directory name ∈ collectFiles root.find? [directory] ∨
        skippedLog root.find? [directory] = [skippedLine directory] := by
  constructor
  · intro h
    let disk : Disk Char :=
      { find? := fun path =>
          if path = "d".toList then some (.directory none)
          else if path = "d/r.csv".toList then some .file
          else none
        read := fun _ _ => .error .notFound }
    have hproper : disk.Proper := by
      intro path listing hfound
      simp only [disk] at hfound
      split_ifs at hfound
      · obtain rfl := Place.directory.inj (Option.some.inj hfound)
        decide
      · cases hfound
    have hfound : disk.find? "d".toList = some (.directory none) := rfl
    obtain ⟨hfiles, hskipped⟩ := collectFiles_of_not_listed hfound
    obtain hmem | hline := h disk "d".toList "r.csv".toList none hproper hfound (by decide)
      (by decide) (by decide)
    · rw [hfiles] at hmem
      cases hmem
    · cases hskipped.symm.trans hline
  · intro h
    let name : Text := List.replicate 150 'a' ++ ".csv".toList
    let root : FileTree := .directory [(name, .file [])]
    have hname : Path.IsFileName name := by decide +kernel
    have hproper : root.Proper :=
      .directory ⟨List.nodup_singleton name, List.forall_mem_singleton.2 hname⟩
        (List.forall_mem_singleton.2 (.file []))
    have hfind : root.find? (dots 2000) = some root := find?_dots _ (by decide)
    have hlong : Text.utf8Length (Path.within (dots 2000) name) = 4156 := by
      have hentry : Text.utf8Length ('/' :: name) = 155 := by decide +kernel
      rw [within_dots, Text.utf8Length_append, utf8Length_dots, hentry]
    have hskipped : skippedLog root.find? [dots 2000] = [] := by
      have hfiles : (filesAt root.find? (dots 2000)).isNone = false := by
        rw [filesAt, find?_ofLook_directory hfind]
        rfl
      simp [skippedLog, hfiles]
    obtain hmem | hline := h root (dots 2000) [(name, .file [])] name [] hproper hfind
      List.mem_cons_self (by decide +kernel)
    · obtain ⟨-, -, -, -, -, hshort⟩ := (mem_collectFiles_tree_iff hproper hfind).1 hmem
      rw [hlong] at hshort
      exact absurd hshort (by decide)
    · cases hskipped.symm.trans hline

end Loader

end RelQuery
