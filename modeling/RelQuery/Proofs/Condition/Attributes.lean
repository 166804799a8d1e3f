import RelQuery.Proofs.Condition.Words
import RelQuery.Proofs.Text.Pieces
import Mathlib.Data.List.Forall2

/-!
# Lists of attributes

A list of attributes is read piece by piece: what is between two commas is an attribute once the
blanks around it are gone. So the names that are read off lists are those with something in them, no
blanks around it and no comma, and all lists of such names but the empty one are read off the text
that has commas between them (`exists_readAttributes_iff`).
-/

namespace RelQuery

/-- Trimming adds no character. -/
theorem Text.trim_subset {text : Text} : Text.trim text ⊆ text := by
  intro c hc
  have hleft : c ∈ trimLeft text := (List.rdropWhile_prefix isBlank _).subset hc
  exact (List.dropWhile_suffix isBlank).subset hleft

namespace Condition

variable {condition name item : Text} {names items : List Text}

/-- A text that can be an attribute in a list. -/
structure IsAttribute (name : Text) : Prop where
  ne_nil : name ≠ []
  trim_eq : Text.trim name = name
  no_comma : ',' ∉ name

/-- A reader that is run on every item succeeds if it does on each. -/
theorem mapM_eq_ok_iff {α β ε : Type} {read : α → Except ε β} {xs : List α} {ys : List β} :
    xs.mapM read = .ok ys ↔ List.Forall₂ (fun x y => read x = .ok y) xs ys := by
  induction xs generalizing ys with
  | nil => cases ys <;> simp [pure, Except.pure]
  | cons x xs ih =>
      rw [List.mapM_cons]
      cases hx : read x with
      | error e => cases ys <;> simp [bind, Except.bind, hx]
      | ok y =>
          cases hxs : xs.mapM read with
          | error e => cases ys <;> simp [bind, Except.bind, hx, hxs, ← ih]
          | ok rest => cases ys <;> simp [bind, Except.bind, pure, Except.pure, hx, hxs, ← ih]

/-- A list of attributes is read if none of its trimmed parts is empty. -/
theorem readAttributes_eq_ok_iff : readAttributes condition = .ok names ↔
    (Text.splitOn ',' condition).map Text.trim = names ∧ [] ∉ names := by
  have hitem (item name : Text) :
      (if (Text.trim item).isEmpty then Except.error (ConditionError.emptyAttribute condition)
        else .ok (Text.trim item)) = .ok name ↔ Text.trim item ≠ [] ∧ Text.trim item = name := by
    by_cases hempty : Text.trim item = [] <;> simp [hempty]
  have hnames (items : List Text) :
      List.Forall₂ (fun item name => Text.trim item = name) items names ↔
        items.map Text.trim = names := by
    rw [← List.forall₂_map_left_iff (R := Eq), List.forall₂_eq_eq_eq]
  simp only [readAttributes, mapM_eq_ok_iff, hitem, List.forall₂_and_left, hnames]
  constructor
  · rintro ⟨hne, rfl⟩
    simpa using hne
  · rintro ⟨rfl, hnil⟩
    simpa using hnil

/-- A list of attributes has something in it. -/
theorem readAttributes_ne_nil (h : readAttributes condition = .ok names) : names ≠ [] := by
  obtain ⟨rfl, -⟩ := readAttributes_eq_ok_iff.1 h
  rw [Text.splitOn_eq]
  exact mt List.map_eq_nil_iff.1 (List.splitOn_ne_nil ',' condition)

/-- What is read has no comma in it and no blanks around it. -/
theorem isAttribute_of_readAttributes (h : readAttributes condition = .ok names) :
    ∀ name ∈ names, IsAttribute name := by
  obtain ⟨rfl, hnames⟩ := readAttributes_eq_ok_iff.1 h
  intro name hname
  obtain ⟨item, hitem, rfl⟩ := List.mem_map.1 hname
  refine ⟨fun hnil => hnames (hnil ▸ hname), trim_trim, fun hcomma => ?_⟩
  exact Text.not_mem_of_mem_splitOn hitem (Text.trim_subset hcomma)

/-- Attributes with commas between them are read one by one. -/
theorem readAttributes_joinWith (hne : names ≠ []) (h : ∀ name ∈ names, IsAttribute name) :
    readAttributes (Text.joinWith [','] names) = .ok names := by
  have hsplit : Text.splitOn ',' (Text.joinWith [','] names) = names := by
    rw [Text.splitOn_eq]
    exact List.splitOn_intercalate ',' (fun name hname => (h name hname).no_comma) hne
  refine readAttributes_eq_ok_iff.2 ⟨?_, fun hnil => (h [] hnil).ne_nil rfl⟩
  rw [hsplit]
  exact (List.map_congr_left fun name hname => (h name hname).trim_eq).trans names.map_id

/-- The lists that can be read. -/
theorem exists_readAttributes_iff : (∃ condition, readAttributes condition = .ok names) ↔
    names ≠ [] ∧ ∀ name ∈ names, IsAttribute name := by
  constructor
  · rintro ⟨condition, h⟩
    exact ⟨readAttributes_ne_nil h, isAttribute_of_readAttributes h⟩
  · rintro ⟨hne, h⟩
    exact ⟨_, readAttributes_joinWith hne h⟩

/-- A single attribute is a list. -/
theorem IsAttribute.readAttributes (h : IsAttribute name) : readAttributes name = .ok [name] := by
  have hread := readAttributes_joinWith (List.cons_ne_nil name []) (List.forall_mem_singleton.2 h)
  rwa [Text.joinWith, List.intercalate_singleton] at hread

end Condition

end RelQuery
