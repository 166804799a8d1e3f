import RelQuery.Proofs.Text.Nesting

/-!
# Parentheses around a text

A text is wrapped if its first character is an opening parenthesis and the last one closes just that
parenthesis, conditions left out. `unwrapped` takes all such parentheses away; what is left is not
wrapped (`peel?_unwrapped`), although it may begin with one parenthesis and end with another.
-/

namespace RelQuery.Text

variable {text body : Text}

/-- Decided by counting what is outside conditions. -/
instance (text : Text) : Decidable text.WellNested :=
  decidable_of_iff (depthAfter? 0 (outside text) = some 0 ∧ insideAfter false text = false)
    ⟨fun h => ⟨h.1, h.2⟩, fun h => ⟨h.1, h.2⟩⟩

/-- The text between the parentheses that the whole text is wrapped in, if it is. -/
def peel? : Text → Option Text
  | [] => none
  | c :: rest =>
      if c = '(' ∧ rest.getLast? = some ')' ∧ WellNested rest.dropLast then some rest.dropLast
      else none

/-- Parentheses are peeled off a text that is well nested between them. -/
theorem peel?_eq_some_iff :
    peel? text = some body ↔ text = '(' :: body ++ [')'] ∧ body.WellNested := by
  cases text with
  | nil => simp [peel?]
  | cons c rest =>
      simp only [peel?, Option.ite_none_right_eq_some, Option.some_inj]
      constructor
      · rintro ⟨⟨rfl, hlast, hnested⟩, rfl⟩
        obtain ⟨body, rfl⟩ := List.getLast?_eq_some_iff.1 hlast
        simpa using hnested
      · rintro ⟨htext, hnested⟩
        cases htext
        simp [hnested]

/-- What is left then is shorter. -/
theorem length_lt_of_peel?_eq_some (h : peel? text = some body) : body.length < text.length := by
  rw [(peel?_eq_some_iff.1 h).1, List.length_append, List.length_cons]
  omega

/-- The text without the parentheses that it is wrapped in. -/
def unwrapped (text : Text) : Text :=
  match h : peel? text with
  | some body =>
      have := length_lt_of_peel?_eq_some h
      unwrapped body
  | none => text
termination_by text.length

/-- Peeling goes on with what is left. -/
theorem unwrapped_of_peel?_eq_some (h : peel? text = some body) :
    unwrapped text = unwrapped body := by
  rw [unwrapped]
  split
  · rename_i hbody
    cases h.symm.trans hbody
    rfl
  · rename_i hnone
    cases h.symm.trans hnone

/-- It ends where there is nothing to peel off. -/
theorem unwrapped_of_peel?_eq_none (h : peel? text = none) : unwrapped text = text := by
  rw [unwrapped]
  split
  · rename_i hbody
    cases h.symm.trans hbody
  · rfl

/-- Parentheses around a well-nested text wrap it. -/
theorem unwrapped_group (h : body.WellNested) :
    unwrapped ('(' :: body ++ [')']) = unwrapped body :=
  unwrapped_of_peel?_eq_some (peel?_eq_some_iff.2 ⟨rfl, h⟩)

/-- What is left is not wrapped any more. -/
theorem peel?_unwrapped (text : Text) : peel? (unwrapped text) = none := by
  induction text using unwrapped.induct with
  | case1 text body h _ ih => rwa [unwrapped_of_peel?_eq_some h]
  | case2 text h => rwa [unwrapped_of_peel?_eq_none h]

/-- Parentheses around two groups wrap them, and no others do. -/
example : unwrapped "(((R) ∪ (S)))".toList = "(R) ∪ (S)".toList := by
  decide +kernel

end RelQuery.Text
