import Mathlib.Data.List.Induction
import RelQuery.Table.Catalog

/-!
# Looking up relations

What a catalog holds under a name, and under which names it holds anything, before and after a
relation is put into it. When relations are put in one after the other the last one of a name stays
(`get?_insertAll_eq_some_iff`), in the place of the first one of that name (`names_insertAll`).
-/

namespace RelQuery.Catalog

variable {catalog : Catalog} {name other : Text} {frame : Frame}
variable {entries relations others : List (Text × Frame)} {relation : Text × Frame}

/-- A catalog has the relations that can be looked up in it. -/
theorem contains_iff_isSome_get? : catalog.contains name ↔ (catalog.get? name).isSome := by
  rw [contains, get?, names]
  induction catalog.entries with
  | nil => simp
  | cons entry entries ih =>
      obtain ⟨key, value⟩ := entry
      by_cases hkey : name = key
      · simp [hkey]
      · have hbeq : (name == key) = false := by simpa using hkey
        simp only [List.lookup_cons, hbeq, ← ih]
        simp [hkey]

/-- A catalog has the relations whose names it lists. -/
theorem contains_iff_mem_names : catalog.contains name ↔ name ∈ catalog.names := by
  simp [contains]

/-- A relation that is found is one of these. -/
theorem mem_names_of_get? (h : catalog.get? name = some frame) : name ∈ catalog.names := by
  rw [← contains_iff_mem_names, contains_iff_isSome_get?, h]
  rfl

/-- What holds of all relations in a catalog holds of those that are looked up. -/
theorem forall_of_get? {P : Frame → Prop} (h : ∀ entry ∈ catalog.entries, P entry.2)
    (hframe : catalog.get? name = some frame) : P frame := by
  rw [get?, List.lookup_eq_some_iff] at hframe
  obtain ⟨before, after, hentries, -⟩ := hframe
  exact h (name, frame) (hentries ▸ List.mem_append_right before List.mem_cons_self)

/-- Putting in a relation adds its name and no other. -/
theorem mem_names_insertEntry :
    other ∈ (insertEntry name frame entries).map Prod.fst ↔
      other = name ∨ other ∈ entries.map Prod.fst := by
  induction entries with
  | nil => simp [insertEntry]
  | cons entry entries ih =>
      by_cases hkey : entry.1 = name
      · simp [insertEntry, hkey]
      · simp only [insertEntry, hkey, if_false, List.map_cons, List.mem_cons, ih]
        exact or_left_comm

/-- A catalog has the names that it had and the one that is put into it. -/
theorem mem_names_insert :
    other ∈ (catalog.insert name frame).names ↔ other = name ∨ other ∈ catalog.names :=
  mem_names_insertEntry

/-- A new name comes last, and one that there is keeps its place. -/
theorem names_insert : (catalog.insert name frame).names =
    if name ∈ catalog.names then catalog.names else catalog.names ++ [name] := by
  unfold names insert
  induction catalog.entries with
  | nil => rfl
  | cons entry entries ih =>
      by_cases hkey : entry.1 = name
      · simp [insertEntry, hkey]
      · rw [insertEntry, if_neg hkey, List.map_cons, ih, List.map_cons]
        by_cases hmem : name ∈ entries.map Prod.fst
        · rw [if_pos hmem, if_pos (List.mem_cons_of_mem _ hmem)]
        · have hne : name ∉ entry.1 :: entries.map Prod.fst := by
            simp only [List.mem_cons, hmem, or_false]
            exact Ne.symm hkey
          rw [if_neg hmem, if_neg hne, List.cons_append]

/-- The relation that is put in is what its name stands for; all else stays. -/
theorem get?_insert : (catalog.insert name frame).get? other =
    if other = name then some frame else catalog.get? other := by
  unfold get? insert
  induction catalog.entries with
  | nil =>
      by_cases hother : other = name
      · simp [insertEntry, hother]
      · have hbeq : (other == name) = false := by simpa using hother
        simp [insertEntry, List.lookup_cons, hother, hbeq]
  | cons entry entries ih =>
      obtain ⟨key, value⟩ := entry
      by_cases hkey : key = name
      · subst hkey
        by_cases hother : other = key
        · simp [insertEntry, hother]
        · have hbeq : (other == key) = false := by simpa using hother
          simp [insertEntry, List.lookup_cons, hother, hbeq]
      · rw [insertEntry, if_neg hkey, List.lookup_cons, List.lookup_cons, ih]
        by_cases hother : other = key
        · simp [hother, hkey]
        · have hbeq : (other == key) = false := by simpa using hother
          simp [hbeq]

/-! ## Several relations -/

/-- Puts relations in, one after the other. -/
def insertAll (catalog : Catalog) (relations : List (Text × Frame)) : Catalog :=
  relations.foldl (fun catalog relation => catalog.insert relation.1 relation.2) catalog

/-- Relations may be put in in two parts. -/
theorem insertAll_append : catalog.insertAll (relations ++ others) =
    (catalog.insertAll relations).insertAll others := by
  simp [insertAll]

/-- The last one is put in behind the others. -/
theorem insertAll_concat : catalog.insertAll (relations ++ [relation]) =
    (catalog.insertAll relations).insert relation.1 relation.2 := by
  simp [insertAll]

/-- The names come in the order in which they were first used. -/
theorem names_insertAll :
    (empty.insertAll relations).names = (relations.map Prod.fst).eraseDups := by
  induction relations using List.reverseRecOn with
  | nil => rfl
  | append_singleton relations relation ih =>
      rw [insertAll_concat, names_insert, ih, List.map_append, List.eraseDups_append]
      by_cases hmem : relation.1 ∈ relations.map Prod.fst
      · simp [List.mem_eraseDups, hmem, List.removeAll]
      · simp [List.mem_eraseDups, hmem, List.removeAll, List.eraseDups_cons]

/-- Looked up is what comes first from the end. -/
theorem get?_insertAll :
    (empty.insertAll relations).get? name = relations.reverse.lookup name := by
  induction relations using List.reverseRecOn with
  | nil => rfl
  | append_singleton relations relation ih =>
      rw [insertAll_concat, get?_insert, List.reverse_concat, List.lookup_cons, ih]
      by_cases hname : name = relation.1
      · simp [hname]
      · have hbeq : (name == relation.1) = false := by simpa using hname
        simp [hname, hbeq]

/-- What a name stands for is the last relation of the name. -/
theorem get?_insertAll_eq_some_iff : (empty.insertAll relations).get? name = some frame ↔
    ∃ before after, relations = before ++ (name, frame) :: after ∧
      ∀ later ∈ after, later.1 ≠ name := by
  rw [get?_insertAll, List.lookup_eq_some_iff]
  constructor
  · intro h
    obtain ⟨after, before, hrelations, hafter⟩ := h
    refine ⟨before.reverse, after.reverse, ?_, ?_⟩
    · simpa using List.reverse_eq_append_iff.mp hrelations
    · intro later hlater
      have hne : name ≠ later.1 := by simpa using hafter later (List.mem_reverse.mp hlater)
      exact hne.symm
  · intro h
    obtain ⟨before, after, hrelations, hafter⟩ := h
    refine ⟨after.reverse, before.reverse, ?_, ?_⟩
    · simp [hrelations]
    · intro later hlater
      simpa using Ne.symm (hafter later (List.mem_reverse.mp hlater))

end RelQuery.Catalog
