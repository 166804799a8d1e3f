import RelQuery.Files.Load
import RelQuery.Proofs.Table.Catalog

/-!
# What is loaded

Which relations a catalog holds when files have been loaded into it one after the other, in which
order, and what became of each file (`loadAll_collectFiles`). How a file is read does not matter
here: whatever reads it may fail on any file. A file adds at most one relation (`loaded?`), so a
catalog is loaded by putting the relations of the files in one after the other, and what becomes of
a file depends only on the files before it (`outcomeAfter`).

The name of a relation is the name of its file without the extension, but a name of bytes may be no
text, and then there is another name in its place (`not_loadAll_stem`).
-/

namespace RelQuery

/-- The relation in a file has that name: what stands before the extension of the file name, if that
is text, and `unknown` otherwise. -/
def Path.NamesRelation {α : Type} [DecidableEq α] [PathChar α] (path : List α) (name : Text) :
    Prop :=
  ∃ stem, stem? path = some stem ∧ (PathChar.text? stem).getD "unknown".toList = name

namespace Loader

variable {α : Type} [DecidableEq α] [PathChar α]
variable {load : List α → Except LoadError Frame} {catalog : Catalog} {disk : Disk α}
variable {path : List α} {name : Text} {frame : Frame} {before files paths : List (List α)}

/-- A table has a file name, and so it has something before the extension. -/
theorem namesRelation_iff (h : Path.isTable path) :
    Path.NamesRelation path name ↔ Path.relationName path = name := by
  cases hfile : Path.fileName? path with
  | none => simp [Path.isTable, Path.extensionText?, Path.extension?, hfile] at h
  | some file => simp [Path.NamesRelation, Path.relationName, Path.stem?, hfile]

/-- The relation that a file adds, and its name. -/
def loaded? (load : List α → Except LoadError Frame) (path : List α) : Option (Text × Frame) :=
  if isRelationName (Path.relationName path) then
    (load path).toOption.map fun frame => (Path.relationName path, frame)
  else none

/-- A file adds a relation if its name is a relation name and the file can be read. -/
theorem loaded?_eq_some_iff : loaded? load path = some (name, frame) ↔
    Path.relationName path = name ∧ isRelationName name ∧ load path = .ok frame := by
  unfold loaded?
  by_cases hname : isRelationName (Path.relationName path)
  · rw [if_pos hname]
    cases load path with
    | error e => simp [Except.toOption]
    | ok other =>
        simp only [Except.toOption, Option.map_some, Option.some.injEq, Prod.mk.injEq,
          Except.ok.injEq]
        constructor
        · intro h
          obtain ⟨rfl, rfl⟩ := h
          exact ⟨rfl, hname, rfl⟩
        · intro h
          exact ⟨h.1, h.2.2⟩
  · rw [if_neg hname]
    constructor
    · intro h
      cases h
    · intro h
      obtain ⟨rfl, hvalid, -⟩ := h
      exact absurd hvalid hname

/-- What becomes of a file when others were loaded before it. -/
def outcomeAfter (load : List α → Except LoadError Frame) (before : List (List α))
    (path : List α) : Outcome :=
  let name := Path.relationName path
  let shown := PathChar.shown path
  if isRelationName name then
    match load path with
    | .ok frame =>
        .loaded shown name frame.height
          (((before.filterMap (loaded? load)).map Prod.fst).contains name)
    | .error e => .failed shown e
  else .invalidName shown name

/-- What arguments stand for are files that hold tables. -/
theorem of_mem_collectFiles (h : path ∈ collectFiles disk paths) :
    disk.isFile path ∧ Path.isTable path := by
  simp only [collectFiles, List.mem_flatMap] at h
  obtain ⟨argument, -, h⟩ := h
  unfold filesAt at h
  cases hfound : disk.find? argument with
  | none => simp [hfound] at h
  | some place =>
      cases place with
      | directory listing =>
          simp only [hfound, Option.getD_some, tablesIn, List.mem_mergeSort, List.mem_filter,
            Bool.and_eq_true] at h
          exact h.2
      | file =>
          by_cases htable : Path.isTable argument
          · simp only [hfound, htable, if_true, Option.getD_some, List.mem_singleton] at h
            subst h
            exact ⟨by rw [Disk.isFile, hfound], htable⟩
          · simp [hfound, htable] at h

/-! ## One file -/

/-- Loading a file is putting its relation in. -/
theorem loadInto_catalog :
    (loadInto load catalog path).1 = catalog.insertAll (loaded? load path).toList := by
  unfold loadInto loaded?
  by_cases hname : isRelationName (Path.relationName path)
  · cases load path <;> simp [hname, Except.toOption, Catalog.insertAll]
  · simp [hname, Catalog.insertAll]

/-- What becomes of a file when the catalog is what the files before it have made. -/
theorem loadInto_outcome :
    (loadInto load (Catalog.empty.insertAll (before.filterMap (loaded? load))) path).2 =
      outcomeAfter load before path := by
  unfold loadInto outcomeAfter
  by_cases hname : isRelationName (Path.relationName path)
  · cases load path with
    | error e => simp [hname]
    | ok frame =>
        simp only [hname, if_true, Outcome.loaded.injEq, true_and]
        rw [Bool.eq_iff_iff, Catalog.contains_iff_mem_names, Catalog.names_insertAll,
          List.mem_eraseDups, List.contains_iff_mem]
  · simp [hname]

/-! ## All files -/

/-- The first file is loaded before the others. -/
theorem loadAll_cons : loadAll load catalog (path :: files) =
    ((loadAll load (loadInto load catalog path).1 files).1,
      (loadInto load catalog path).2 :: (loadAll load (loadInto load catalog path).1 files).2) := rfl

/-- Its relation is the first one that files add. -/
theorem filterMap_loaded?_cons : (path :: files).filterMap (loaded? load) =
    (loaded? load path).toList ++ files.filterMap (loaded? load) := by
  cases hloaded : loaded? load path <;> simp [hloaded]

/-- Loading files is putting their relations in. -/
theorem loadAll_catalog :
    (loadAll load catalog files).1 = catalog.insertAll (files.filterMap (loaded? load)) := by
  induction files generalizing catalog with
  | nil => rfl
  | cons path files ih =>
      rw [loadAll_cons, ih, loadInto_catalog, ← Catalog.insertAll_append, ← filterMap_loaded?_cons]

/-- What becomes of a file depends on the files before it. -/
theorem getElem?_loadAll_outcomes (before : List (List α)) (i : Nat) :
    (loadAll load (Catalog.empty.insertAll (before.filterMap (loaded? load))) files).2[i]? =
      files[i]?.map (outcomeAfter load (before ++ files.take i)) := by
  -- The catalog at each turn is the one that the files so far make, so these are generalized.
  induction files generalizing before i with
  | nil => simp [loadAll]
  | cons path files ih =>
      cases i with
      | zero => simp [loadAll_cons, loadInto_outcome]
      | succ i =>
          have hcatalog : (loadInto load
              (Catalog.empty.insertAll (before.filterMap (loaded? load))) path).1 =
                Catalog.empty.insertAll ((before ++ [path]).filterMap (loaded? load)) := by
            rw [loadInto_catalog, ← Catalog.insertAll_append, List.filterMap_append,
              filterMap_loaded?_cons, List.filterMap_nil, List.append_nil]
          rw [loadAll_cons, hcatalog, List.getElem?_cons_succ, ih _ i, List.append_assoc]
          rfl

/-- A relation is the last one of its name that is loaded if the file that it is in is the last one
that a relation of the name is loaded from. -/
theorem exists_last_loaded?_iff :
    (∃ before after, files.filterMap (loaded? load) = before ++ (name, frame) :: after ∧
      ∀ later ∈ after, later.1 ≠ name) ↔
    ∃ before path after, files = before ++ path :: after ∧
      loaded? load path = some (name, frame) ∧
      ∀ later ∈ after, ∀ other, loaded? load later ≠ some (name, other) := by
  constructor
  · intro h
    -- Between the file and those before it there may be some that nothing is loaded from.
    obtain ⟨before, after, hsplit, hlast⟩ := h
    obtain ⟨left, right, rfl, -, hright⟩ := List.filterMap_eq_append_iff.mp hsplit
    obtain ⟨skipped, path, after, rfl, hskipped, hpath, rfl⟩ :=
      List.filterMap_eq_cons_iff.mp hright
    refine ⟨left ++ skipped, path, after, ?_, hpath, ?_⟩
    · rw [List.append_assoc]
    · intro later hlater other hloaded
      exact hlast (name, other) (List.mem_filterMap.mpr ⟨later, hlater, hloaded⟩) rfl
  · intro h
    obtain ⟨before, path, after, rfl, hpath, hlast⟩ := h
    refine ⟨before.filterMap (loaded? load), after.filterMap (loaded? load), ?_, ?_⟩
    · rw [List.filterMap_append, List.filterMap_cons_some hpath]
    · intro later hlater hname
      obtain ⟨file, hfile, hloaded⟩ := List.mem_filterMap.mp hlater
      obtain ⟨other, frame⟩ := later
      subst hname
      exact hlast file hfile frame hloaded

/-- Whatever reads the files, the catalog that is loaded has a name if and only if a file names its
relation so, it is a relation name and the file can be read. The name stands for what is in the last
file of which this is true, and the names come in the order in which they were first loaded. Every
file has one outcome, which depends only on the file and those before it, and the log is made of the
lines about the outcomes in their order. -/
theorem loadAll_collectFiles (load : List α → Except LoadError Frame) (disk : Disk α)
    (paths : List (List α)) :
    let files := collectFiles disk paths
    let catalog := (loadAll load .empty files).1
    let outcomes := (loadAll load .empty files).2
    (∀ name, catalog.contains name ↔ ∃ path ∈ files, ∃ frame,
      Path.NamesRelation path name ∧ isRelationName name ∧ load path = .ok frame) ∧
    (∀ name frame, catalog.get? name = some frame ↔
      ∃ before path after, files = before ++ path :: after ∧
        (Path.NamesRelation path name ∧ isRelationName name ∧ load path = .ok frame) ∧
        ∀ later ∈ after, ∀ other,
          ¬ (Path.NamesRelation later name ∧ isRelationName name ∧ load later = .ok other)) ∧
    catalog.names = ((files.filterMap (loaded? load)).map Prod.fst).eraseDups ∧
    outcomes = files.mapIdx (fun i path => outcomeAfter load (files.take i) path) ∧
    log disk paths outcomes = skippedLog disk paths ++ outcomes.flatMap Outcome.lines ∧
    loadCatalog disk paths = loadAll (loadFile disk) .empty files := by
  intro files catalog outcomes
  have hnamed (path : List α) (hmem : path ∈ files) (name : Text) (frame : Frame) :
      (Path.NamesRelation path name ∧ isRelationName name ∧ load path = .ok frame) ↔
        loaded? load path = some (name, frame) := by
    rw [namesRelation_iff (of_mem_collectFiles hmem).2, loaded?_eq_some_iff]
  have hcatalog : catalog = Catalog.empty.insertAll (files.filterMap (loaded? load)) :=
    loadAll_catalog
  have hnames : catalog.names = ((files.filterMap (loaded? load)).map Prod.fst).eraseDups := by
    rw [hcatalog, Catalog.names_insertAll]
  refine ⟨?_, ?_, hnames, ?_, rfl, rfl⟩
  · intro name
    rw [Catalog.contains_iff_mem_names, hnames, List.mem_eraseDups]
    simp only [List.mem_map, List.mem_filterMap, Prod.exists, exists_and_right, exists_eq_right]
    constructor
    · intro h
      obtain ⟨frame, path, hmem, h⟩ := h
      exact ⟨path, hmem, frame, (hnamed path hmem name frame).2 h⟩
    · intro h
      obtain ⟨path, hmem, frame, h⟩ := h
      exact ⟨frame, path, hmem, (hnamed path hmem name frame).1 h⟩
  · intro name frame
    rw [hcatalog, Catalog.get?_insertAll_eq_some_iff, exists_last_loaded?_iff]
    refine exists_congr fun before => exists_congr fun path => exists_congr fun after =>
      and_congr_right fun hfiles => ?_
    have hpath : path ∈ files := by simp [hfiles]
    have hafter (later : List α) (hlater : later ∈ after) : later ∈ files := by
      simp [hfiles, hlater]
    rw [hnamed path hpath]
    refine and_congr_right fun _ => forall₂_congr fun later hlater => forall_congr' fun other => ?_
    rw [hnamed later (hafter later hlater)]
  · apply List.ext_getElem?
    intro i
    rw [List.getElem?_mapIdx]
    exact getElem?_loadAll_outcomes [] i

/-- A file may have a name that is no text, and a relation is loaded from it under a name that no
file has. -/
theorem not_loadAll_stem :
    ¬ ∀ (load : List UInt8 → Except LoadError Frame) (disk : Disk UInt8)
        (paths : List (List UInt8)) (name : Text),
      (loadAll load .empty (collectFiles disk paths)).1.contains name ↔
        ∃ path ∈ collectFiles disk paths, ∃ stem frame, Path.stem? path = some stem ∧
          PathChar.text? stem = some name ∧ isRelationName name ∧ load path = .ok frame := by
  intro h
  let file : List UInt8 := [0xFF, 0x2E, 0x63, 0x73, 0x76]
  let disk : Disk UInt8 :=
    { find? := fun path => if path = file then some .file else none
      read := fun _ _ => .ok ⟨[⟨['A'], .int64⟩], [[.int 1]]⟩ }
  have hfiles : collectFiles disk [file] = [file] := by decide +kernel
  have hloaded : (loadAll (loadFile disk) .empty (collectFiles disk [file])).1.contains
      "unknown".toList := by decide +kernel
  obtain ⟨path, hmem, stem, frame, hstem, htext, -⟩ :=
    (h (loadFile disk) disk [file] "unknown".toList).1 hloaded
  rw [hfiles, List.mem_singleton] at hmem
  subst hmem
  obtain rfl : [0xFF] = stem := Option.some.inj (Eq.trans (by decide +kernel) hstem)
  have hnone : PathChar.text? [(0xFF : UInt8)] = none := by decide +kernel
  cases hnone.symm.trans htext

/-- A file that cannot be read leaves what was loaded under its name, and one that can be read
takes its place. -/
example :
    let load : Text → Except LoadError Frame := fun path =>
      match path with
      | 'a' :: _ => .ok ⟨[⟨['A'], .int64⟩], [[.int 1]]⟩
      | 'b' :: _ => .ok ⟨[⟨['A'], .int64⟩], []⟩
      | _ => .error .notFound
    let files := ["a/r.csv".toList, "b/s.csv".toList, "b/r.csv".toList, "c/r.csv".toList]
    loadAll load .empty files =
      (⟨[("r".toList, ⟨[⟨['A'], .int64⟩], []⟩), ("s".toList, ⟨[⟨['A'], .int64⟩], []⟩)]⟩,
        [.loaded "a/r.csv".toList "r".toList 1 false, .loaded "b/s.csv".toList "s".toList 0 false,
          .loaded "b/r.csv".toList "r".toList 0 true, .failed "c/r.csv".toList .notFound]) := by
  decide +kernel

end Loader

end RelQuery
