import RelQuery.Text

/-!
# Pieces between separators

What a text is split into at a separator: pieces without it, and for texts that each end with the
separator these texts and an empty piece behind the last one (`splitOn_flatMap`).
-/

namespace RelQuery.Text

variable {separator : Char} {text piece : Text}

/-- Splitting a text is splitting it as a list of characters. -/
theorem splitOn_eq {α : Type} [DecidableEq α] {separator : α} {text : List α} :
    splitOn separator text = List.splitOn separator text := by
  induction text with
  | nil => rw [splitOn, List.splitOn_nil]
  | cons c text ih =>
      rw [splitOn, ih, List.splitOn_cons_eq_if_modifyHead]
      by_cases hc : c = separator
      · simp [hc]
      · cases hrest : List.splitOn separator text with
        | nil => exact absurd hrest (List.splitOn_ne_nil separator text)
        | cons piece pieces => simp [hc]

/-- No separator is left in a piece. -/
theorem not_mem_of_mem_splitOn (h : piece ∈ splitOn separator text) : separator ∉ piece := by
  induction text generalizing piece with
  | nil =>
      obtain rfl := List.mem_singleton.1 h
      exact List.not_mem_nil
  | cons c text ih =>
      rw [splitOn_eq, List.splitOn_cons_eq_if_modifyHead, ← splitOn_eq] at h
      by_cases hc : c = separator
      · rw [if_pos (by simpa using hc)] at h
        obtain rfl | h := List.mem_cons.1 h
        · exact List.not_mem_nil
        · exact ih h
      · rw [if_neg (by simpa using hc)] at h
        cases hrest : splitOn separator text with
        | nil =>
            rw [hrest] at h
            cases h
        | cons first pieces =>
            rw [hrest] at h ih
            obtain rfl | h := List.mem_cons.1 h
            · exact List.not_mem_cons_of_ne_of_not_mem (Ne.symm hc) (ih List.mem_cons_self)
            · exact ih (List.mem_cons_of_mem first h)

/-- Texts that each end with the separator, and in which it stands nowhere else, are the pieces. -/
theorem splitOn_flatMap {α : Type} {line : α → Text} {items : List α}
    (h : ∀ item ∈ items, separator ∉ line item) :
    splitOn separator (items.flatMap fun item => line item ++ [separator]) =
      items.map line ++ [[]] := by
  rw [splitOn_eq]
  induction items with
  | nil =>
      rw [List.flatMap_nil, List.splitOn_nil]
      rfl
  | cons item items ih =>
      obtain ⟨hitem, hitems⟩ := List.forall_mem_cons.1 h
      rw [List.flatMap_cons, List.append_assoc, List.singleton_append,
        List.splitOn_append_cons_self, List.splitOn_eq_singleton hitem, ih hitems]
      rfl

end RelQuery.Text
