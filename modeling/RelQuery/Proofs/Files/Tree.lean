import RelQuery.Files.Tree
import RelQuery.Proofs.Files.Path
import Mathlib.Data.List.Nodup
import Mathlib.Data.Option.Defs

/-!
# Trees and the order of entries

In the directories of a proper tree every entry has a name of its own. Where a path leads does not
depend on the order in which directories list their entries: in a tree that lists them in another
order it leads to the same file, or to a directory that lists the same in another order
(`Reordered.find?`).

The path of an entry leads to the entry, unless it is too long (`find?_within`).
-/

namespace RelQuery.FileTree

variable {entries others : List (Text × FileTree)} {tree other root here there : FileTree}
variable {above outside : List FileTree} {name : Text}

/-- Entries as a directory may have them. -/
abbrev ProperEntries (entries : List (Text × FileTree)) : Prop :=
  Path.AreFileNames (entries.map Prod.fst)

/-- A tree in which all directories have proper entries. -/
inductive Proper : FileTree → Prop where
  | file (content : Text) : Proper (.file content)
  | directory {entries : List (Text × FileTree)} (entriesProper : ProperEntries entries)
      (inner : ∀ entry ∈ entries, Proper entry.2) : Proper (.directory entries)

/-- Proper trees that differ in nothing but the order of the entries in their directories. -/
inductive Reordered : FileTree → FileTree → Prop where
  | file (content : Text) : Reordered (.file content) (.file content)
  | directory {entries others : List (Text × FileTree)} (entriesProper : ProperEntries entries)
      (names : (entries.map Prod.fst).Perm (others.map Prod.fst))
      (inner : ∀ name tree other,
        (name, tree) ∈ entries → (name, other) ∈ others → Reordered tree other) :
      Reordered (.directory entries) (.directory others)

/-! ## Entries -/

/-- What is found under a name is an entry of that name. -/
theorem mem_of_lookup (h : entries.lookup name = some tree) : (name, tree) ∈ entries := by
  obtain ⟨before, after, rfl, -⟩ := List.lookup_eq_some_iff.1 h
  exact List.mem_append_right before List.mem_cons_self

/-- Nothing is found under a name that no entry has. -/
theorem lookup_eq_none_iff : entries.lookup name = none ↔ name ∉ entries.map Prod.fst := by
  rw [List.lookup_eq_none_iff, List.mem_map]
  constructor
  · intro h hmem
    obtain ⟨entry, hentry, rfl⟩ := hmem
    simpa using h entry hentry
  · intro h entry hentry
    rw [bne_iff_ne]
    intro hname
    exact h ⟨entry, hentry, hname.symm⟩

/-- There is one entry of a name. -/
theorem ProperEntries.eq_of_mem (h : ProperEntries entries) (htree : (name, tree) ∈ entries)
    (hother : (name, other) ∈ entries) : tree = other := by
  have heq := List.inj_on_of_nodup_map h.nodup htree hother rfl
  exact (Prod.mk.inj heq).2

/-- Every entry is found under its name. -/
theorem ProperEntries.lookup_eq_some (h : ProperEntries entries) (hmem : (name, tree) ∈ entries) :
    entries.lookup name = some tree := by
  cases hlookup : entries.lookup name with
  | none => exact absurd (List.mem_map_of_mem hmem) (lookup_eq_none_iff.1 hlookup)
  | some other => rw [h.eq_of_mem hmem (mem_of_lookup hlookup)]

/-! ## Other orders -/

/-- Only proper trees are reordered. -/
theorem Reordered.proper (h : Reordered tree other) : Proper tree := by
  induction h with
  | file content => exact .file content
  | directory entriesProper names inner ih =>
      refine .directory entriesProper fun entry hentry => ?_
      obtain ⟨⟨name, other⟩, hother, hname⟩ :=
        List.mem_map.1 (names.mem_iff.1 (List.mem_map_of_mem hentry))
      refine ih entry.1 entry.2 other hentry ?_
      rwa [← hname]

/-- Any order of the entries in a directory will do. -/
theorem Reordered.of_perm (entriesProper : ProperEntries entries)
    (inner : ∀ entry ∈ entries, Reordered entry.2 entry.2) (perm : entries.Perm others) :
    Reordered (.directory entries) (.directory others) := by
  refine .directory entriesProper (perm.map Prod.fst) ?_
  intro name tree other htree hother
  obtain rfl := entriesProper.eq_of_mem htree (perm.mem_iff.2 hother)
  exact inner (name, tree) htree

/-- A proper tree differs in nothing from itself. -/
theorem Proper.reordered (h : Proper tree) : Reordered tree tree := by
  induction h with
  | file content => exact .file content
  | directory entriesProper inner ih => exact .of_perm entriesProper ih (.refl _)

/-! ## One step -/

/-- Under a name there is the same in both directories, but for the order of entries. -/
theorem Reordered.lookup (h : Reordered (.directory entries) (.directory others)) (name : Text) :
    Option.Rel Reordered (entries.lookup name) (others.lookup name) := by
  cases h with
  | directory entriesProper names inner =>
      cases htree : entries.lookup name with
      | none =>
          have hother : others.lookup name = none := by
            rw [lookup_eq_none_iff, ← names.mem_iff]
            exact lookup_eq_none_iff.1 htree
          rw [hother]
          exact .none
      | some tree =>
          cases hother : others.lookup name with
          | none =>
              rw [lookup_eq_none_iff, ← names.mem_iff] at hother
              exact absurd (List.mem_map_of_mem (mem_of_lookup htree)) hother
          | some other =>
              exact .some (inner name tree other (mem_of_lookup htree) (mem_of_lookup hother))

/-- Where one is in two trees: the directories above are the same but for the order of entries, and
so is where one stands. -/
structure Alongside (place other : List FileTree × FileTree) : Prop where
  above : List.Forall₂ Reordered place.1 other.1
  here : Reordered place.2 other.2

/-- One step leads to the same in both trees, or nowhere in either. -/
theorem Alongside.step (h : Alongside (above, here) (outside, there)) (part : Text) :
    Option.Rel Alongside (step above here part) (step outside there part) := by
  obtain ⟨habove, hhere⟩ := h
  cases here with
  | file content =>
      cases hhere
      exact .none
  | directory entries =>
      cases there with
      | file content => cases hhere
      | directory others =>
          unfold FileTree.step
          by_cases hstay : part = [] ∨ part = ['.']
          · simp only [if_pos hstay]
            exact .some ⟨habove, hhere⟩
          · simp only [if_neg hstay]
            by_cases hup : part = ['.', '.']
            · simp only [if_pos hup]
              cases habove with
              | nil => exact .none
              | cons houter habove => exact .some ⟨habove, houter⟩
            · simp only [if_neg hup]
              have hinner := hhere.lookup part
              generalize entries.lookup part = left, others.lookup part = right at hinner
              cases hinner with
              | none => exact .none
              | some hinner => exact .some ⟨.cons hhere habove, hinner⟩

/-! ## Whole paths -/

/-- So do all steps of a path. -/
theorem Alongside.follow (h : Alongside (above, here) (outside, there)) (parts : List Text) :
    Option.Rel Reordered (follow above here parts) (follow outside there parts) := by
  induction parts generalizing above here outside there with
  | nil => exact .some h.here
  | cons part rest ih =>
      have hstep := h.step part
      rw [FileTree.follow, FileTree.follow]
      generalize FileTree.step above here part = left,
        FileTree.step outside there part = right at hstep
      cases hstep with
      | none => exact .none
      | some hnext => exact ih hnext

/-- A path leads to the same in both trees, but for the order of entries. -/
theorem Reordered.find? (h : Reordered root other) (path : Text) :
    Option.Rel Reordered (root.find? path) (other.find? path) := by
  unfold FileTree.find?
  split
  · exact .none
  · exact Alongside.follow ⟨.nil, h⟩ _

/-- A path leads from a proper tree to a proper one. -/
theorem Proper.find? (h : Proper root) {path : Text} (hfind : root.find? path = some tree) :
    Proper tree := by
  have hrel := h.reordered.find? path
  rw [hfind] at hrel
  cases hrel with
  | some hself => exact hself.proper

/-- Slashes at the end of a path add no step. -/
theorem follow_concat_nil {parts : List Text}
    (h : FileTree.follow above here (parts ++ [[]]) = some tree) :
    FileTree.follow above here parts = some tree := by
  induction parts generalizing above here with
  | nil =>
      cases here with
      | file content => cases h
      | directory entries => exact h
  | cons part rest ih =>
      rw [List.cons_append, FileTree.follow] at h
      rw [FileTree.follow]
      cases hstep : FileTree.step above here part with
      | none =>
          rw [hstep] at h
          cases h
      | some place =>
          rw [hstep] at h
          exact ih h

/-- The name of an entry behind the steps to its directory leads to the entry. -/
theorem follow_concat {parts : List Text}
    (h : FileTree.follow above here parts = some (.directory entries))
    (hname : Path.IsFileName name) :
    FileTree.follow above here (parts ++ [name]) = entries.lookup name := by
  induction parts generalizing above here with
  | nil =>
      cases h
      have hstay : ¬ (name = [] ∨ name = ['.']) := not_or.2 ⟨hname.ne_nil, hname.ne_here⟩
      have hup : ¬ name = ['.', '.'] := hname.ne_above
      rw [List.nil_append, FileTree.follow]
      unfold FileTree.step
      simp only [if_neg hstay, if_neg hup]
      cases entries.lookup name <;> rfl
  | cons part rest ih =>
      rw [FileTree.follow] at h
      rw [List.cons_append, FileTree.follow]
      cases hstep : FileTree.step above here part with
      | none =>
          rw [hstep] at h
          cases h
      | some place =>
          rw [hstep] at h
          exact ih h

/-- The path of an entry leads to it, unless it is too long. -/
theorem find?_within {directory : Text} (h : root.find? directory = some (.directory entries))
    (hname : Path.IsFileName name) :
    root.find? (Path.within directory name) =
      if pathLimit ≤ Text.utf8Length (Path.within directory name) then none
      else entries.lookup name := by
  unfold FileTree.find? at h
  split at h
  case isTrue => cases h
  case isFalse hstart =>
    obtain ⟨hempty, hshort⟩ := not_or.1 hstart
    obtain ⟨hhead, -⟩ := not_or.1 hshort
    have hne : directory ≠ [] := List.isEmpty_eq_false_iff.1 (Bool.eq_false_iff.2 hempty)
    obtain ⟨front, hdirectory, hwithin⟩ : ∃ front,
        (directory = front ∨ directory = front ++ ['/']) ∧
        ∀ name, Path.within directory name = front ++ '/' :: name := Path.exists_within_eq hne
    have hsplit : Text.splitOn '/' (front ++ '/' :: name) = Text.splitOn '/' front ++ [name] :=
      Path.splitOn_append_slash hname.slash_not_mem
    have hfollow : FileTree.follow [] root (Text.splitOn '/' (front ++ '/' :: name)) =
        entries.lookup name := by
      rw [hsplit]
      obtain rfl | rfl := hdirectory
      · exact follow_concat h hname
      · have hend : Text.splitOn '/' (front ++ ['/']) = Text.splitOn '/' front ++ [[]] :=
          Path.splitOn_append_slash List.not_mem_nil
        rw [hend] at h
        exact follow_concat (follow_concat_nil h) hname
    -- A path with nothing in front of the slash would be the root, and its directory too.
    have hrelative : (front ++ '/' :: name).head? ≠ some '/' := by
      cases front with
      | nil => obtain rfl | rfl := hdirectory <;> simp at hne hhead
      | cons first rest => obtain rfl | rfl := hdirectory <;> simpa using hhead
    rw [hwithin, FileTree.find?]
    by_cases hlong : pathLimit ≤ Text.utf8Length (front ++ '/' :: name)
    · rw [if_pos (.inr (.inr hlong)), if_pos hlong]
    · rw [if_neg (not_or.2 ⟨by simp, not_or.2 ⟨hrelative, hlong⟩⟩), if_neg hlong, hfollow]

/-- Dots lead to where one is. -/
theorem follow_dots (entries : List (Text × FileTree)) (n : Nat) :
    FileTree.follow above (.directory entries) (List.replicate n ['.']) =
      some (.directory entries) := by
  induction n with
  | zero => rfl
  | succ n ih => exact ih

end RelQuery.FileTree
