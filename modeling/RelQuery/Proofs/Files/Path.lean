import RelQuery.Files.Path
import RelQuery.Proofs.Text.Pieces
import Mathlib.Data.List.Sort

/-!
# The order of paths

The order of paths is a linear one on their components (`compare_eq_eq_iff`), so that sorting puts
paths with different components in increasing order (`pairwise_mergeSort_lt`). The path of an entry
of a directory has the name of the entry as its last component (`exists_components_within`), and so
the paths of different entries are different.
-/

namespace RelQuery.Path

open PathChar (slash dot rank)

variable {α : Type} [DecidableEq α] [PathChar α]
variable {directory name other front path left right : List α} {paths : List (List α)}

/-- A name that an entry of a directory may have. -/
structure IsFileName (name : List α) : Prop where
  ne_nil : name ≠ []
  slash_not_mem : slash ∉ name
  ne_here : name ≠ [dot]
  ne_above : name ≠ [dot, dot]

/-- Names that the entries of one directory may have. -/
structure AreFileNames (names : List (List α)) : Prop where
  nodup : names.Nodup
  isFileName : ∀ name ∈ names, IsFileName name

/-- Decided part by part. -/
instance (name : List α) : Decidable (IsFileName name) :=
  decidable_of_iff (name ≠ [] ∧ slash ∉ name ∧ name ≠ [dot] ∧ name ≠ [dot, dot])
    ⟨fun ⟨hnil, hslash, hhere, habove⟩ => ⟨hnil, hslash, hhere, habove⟩,
      fun ⟨hnil, hslash, hhere, habove⟩ => ⟨hnil, hslash, hhere, habove⟩⟩

/-- Decided name by name. -/
instance (names : List (List α)) : Decidable (AreFileNames names) :=
  decidable_of_iff (names.Nodup ∧ ∀ name ∈ names, IsFileName name)
    ⟨fun ⟨hnodup, hnames⟩ => ⟨hnodup, hnames⟩, fun ⟨hnodup, hnames⟩ => ⟨hnodup, hnames⟩⟩

omit [DecidableEq α] in
/-- In another order they are names that the entries of one directory may have as well. -/
theorem AreFileNames.of_perm {names others : List (List α)} (h : AreFileNames names)
    (hperm : names.Perm others) : AreFileNames others where
  nodup := hperm.nodup_iff.1 h.nodup
  isFileName name hname := h.isFileName name (hperm.mem_iff.2 hname)

/-! ## Entries of directories -/

/-- The name of an entry stands behind a slash, and what stands in front of it is the same for all
entries: the directory, without a slash at its end. -/
theorem exists_within_eq (hne : directory ≠ []) :
    ∃ front, (directory = front ∨ directory = front ++ [slash]) ∧
      ∀ name, within directory name = front ++ slash :: name := by
  have hempty := List.isEmpty_eq_false_iff.2 hne
  by_cases h : directory.getLast? = some slash
  · obtain ⟨front, rfl⟩ := List.getLast?_eq_some_iff.1 h
    refine ⟨front, .inr rfl, fun name => ?_⟩
    rw [within, if_pos (.inr h), List.append_assoc, List.singleton_append]
  · exact ⟨directory, .inl rfl, fun name => by rw [within, if_neg (by simp [hempty, h])]⟩

/-- A name behind a slash is a part by itself. -/
theorem splitOn_append_slash (h : slash ∉ name) :
    Text.splitOn slash (front ++ slash :: name) = Text.splitOn slash front ++ [name] := by
  rw [Text.splitOn_eq, Text.splitOn_eq, List.splitOn_append_cons_self,
    List.splitOn_eq_singleton h]

/-- A name behind a slash is the last part. -/
theorem parts_append_slash (h : IsFileName name) :
    parts (front ++ slash :: name) = parts (front ++ [slash]) ++ [name] := by
  have hne : Text.splitOn slash front ≠ [] := by
    rw [Text.splitOn_eq]
    exact List.splitOn_ne_nil slash front
  obtain ⟨first, rest, hfront⟩ := List.exists_cons_of_ne_nil hne
  rw [parts, parts, splitOn_append_slash h.slash_not_mem, splitOn_append_slash List.not_mem_nil,
    hfront]
  simp [h.ne_nil, h.ne_here]

/-- A name by itself is the only part. -/
theorem parts_name (h : IsFileName name) : parts name = [name] := by
  have hsplit : Text.splitOn slash name = [name] := by
    rw [Text.splitOn_eq, List.splitOn_eq_singleton h.slash_not_mem]
  rw [parts, hsplit]
  simp [h.ne_nil]

/-- The path of an entry has the name of the entry as its file name. -/
theorem fileName?_within (h : IsFileName name) : fileName? (within directory name) = some name := by
  have hlast : (parts (within directory name)).getLast? = some name := by
    by_cases hne : directory = []
    · have hwithin : within directory name = name := by simp [within, hne]
      rw [hwithin, parts_name h]
      rfl
    · obtain ⟨front, -, hfront⟩ := exists_within_eq hne
      rw [hfront, parts_append_slash h, List.getLast?_concat]
  rw [fileName?, hlast]
  simp [h.ne_here, h.ne_above]

/-- Its name alone says whether an entry is named as a table. -/
theorem isTable_within (h : IsFileName name) : isTable (within directory name) = isTable name := by
  have hfile : fileName? name = some name := by
    rw [fileName?, parts_name h]
    simp [h.ne_here, h.ne_above]
  simp only [isTable, extensionText?, extension?, fileName?_within h, hfile]

/-- A part that is a name stands for what has that name. -/
theorem Component.ofPart_name (h : IsFileName name) : Component.ofPart name = .named name := by
  rw [Component.ofPart, if_neg h.ne_here, if_neg h.ne_above]

/-- The last component of the path of an entry is its name, and those before are the same for all
entries of a directory. -/
theorem exists_components_within (directory : List α) :
    ∃ shared, ∀ name, IsFileName name →
      components (within directory name) = shared ++ [.named name] := by
  by_cases hne : directory = []
  · refine ⟨[], fun name h => ?_⟩
    have hhead : name.head? ≠ some slash := fun hhead =>
      h.slash_not_mem (List.mem_of_mem_head? hhead)
    have hwithin : within directory name = name := by simp [within, hne]
    rw [hwithin, components, if_neg hhead, parts_name h, List.map_singleton,
      Component.ofPart_name h]
  · obtain ⟨front, -, hfront⟩ := exists_within_eq hne
    refine ⟨components (front ++ [slash]), fun name h => ?_⟩
    have hhead : (front ++ slash :: name).head? = (front ++ [slash]).head? := by
      cases front <;> rfl
    rw [hfront, components, components, hhead, parts_append_slash h, List.map_append,
      List.map_singleton, Component.ofPart_name h, List.append_assoc]

/-- Entries of one directory with paths of the same components have the same name. -/
theorem eq_of_components_within (hname : IsFileName name) (hother : IsFileName other)
    (h : components (within directory name) = components (within directory other)) :
    name = other := by
  obtain ⟨shared, hshared⟩ := exists_components_within directory
  rw [hshared name hname, hshared other hother] at h
  exact Component.named.inj (List.singleton_inj.1 (List.append_cancel_left h))

/-! ## Order -/

omit [DecidableEq α] in
/-- Components with the same place in the order are the same. -/
theorem Component.key_injective : ∀ left right : Component α, left.key = right.key → left = right
  | root, root, _ => rfl
  | here, here, _ => rfl
  | above, above, _ => rfl
  | named name, named other, h => by
      have hrank : name.map rank = other.map rank := (List.cons.inj h).2
      exact congrArg named (List.map_injective_iff.2 PathChar.rank_injective hrank)

/-- Paths with the same components have the same place, and no others do. -/
theorem compare_eq_eq_iff : compare left right = .eq ↔ components left = components right := by
  rw [compare, compareOn, Std.LawfulEqCmp.compare_eq_iff_eq, key, key]
  constructor
  · exact fun h => List.map_injective_iff.2 Component.key_injective h
  · exact congrArg _

/-- Paths are ordered as their keys are. -/
instance : Std.TransCmp (compare (α := α)) :=
  inferInstanceAs (Std.TransCmp (compareOn key))

/-- Exchanged paths are in the opposite order. -/
theorem compare_swap (left right : List α) : compare right left = (compare left right).swap :=
  Std.OrientedCmp.eq_swap

/-- Two paths are not before one another. -/
theorem compare_asymm (h : compare left right = .lt) : compare right left ≠ .lt := by
  rw [compare_swap, h]
  decide

/-- There is only one increasing order of the same paths. -/
theorem eq_of_perm_of_increasing {others : List (List α)} (h : paths.Perm others)
    (hpaths : paths.Pairwise fun left right => compare left right = .lt)
    (hothers : others.Pairwise fun left right => compare left right = .lt) : paths = others := by
  refine h.eq_of_pairwise ?_ hpaths hothers
  intro left right _ _ hlt hgt
  exact absurd hgt (compare_asymm hlt)

/-- Sorting puts paths with different components in increasing order. -/
theorem pairwise_mergeSort_lt (h : paths.Pairwise fun left right => compare left right ≠ .eq) :
    (paths.mergeSort fun left right => (compare left right).isLE).Pairwise
      fun left right => compare left right = .lt := by
  have htotal (left right : List α) : (compare left right).isLE || (compare right left).isLE := by
    rw [compare_swap left right]
    cases compare left right <;> rfl
  have hsorted : (paths.mergeSort fun left right => (compare left right).isLE).Pairwise
      fun left right => (compare left right).isLE :=
    List.pairwise_mergeSort (fun _ _ _ => Std.TransCmp.isLE_trans) htotal paths
  have hdifferent : (paths.mergeSort fun left right => (compare left right).isLE).Pairwise
      fun left right => compare left right ≠ .eq := by
    refine (List.Perm.pairwise_iff ?_ (List.mergeSort_perm paths _)).2 h
    intro left right hne heq
    rw [compare_swap right left, heq] at hne
    exact hne rfl
  exact hsorted.imp₂ (fun _ _ hle hne => (Ordering.isLE_iff_eq_lt_or_eq_eq.1 hle).resolve_right hne)
    hdifferent

end RelQuery.Path
