import RelQuery.Proofs.Table.NaturalJoin
import RelQuery.Table.Selection

/-!
# What a predicate looks at

Of a row a predicate sees the cells in the columns that its words name, and of these no more than
what they are equal to. So its outcome is the same on all rows that agree there, whatever else is in
them and wherever the columns stand (`Predicate.outcome_congr`). Whether it compares comparable
values depends on the types of these columns, and types whose values match are the same to it
(`Predicate.comparable_congr`).
-/

namespace RelQuery

variable {schema others left right : Schema} {row other a b : Row} {x y x' y' : Cell}

/-! ## Cells and types -/

/-- Of two values only what they are equal to decides how they are ordered. -/
theorem Cell.compare?_congr (hx : x.key = x'.key) (hy : y.key = y'.key) :
    x.compare? y = x'.compare? y' := by
  have hleft : x.compare? y = x'.compare? y := by
    cases x <;> cases x' <;> cases y <;> simp_all [Cell.key, Cell.compare?, Cell.compareMixed]
  have hright : x'.compare? y = x'.compare? y' := by
    cases y <;> cases y' <;> cases x' <;> simp_all [Cell.key, Cell.compare?, Cell.compareMixed]
  exact hleft.trans hright

/-- Types whose values match are comparable with the same types. -/
theorem Dtype.comparable_congr {s s' t t' : Dtype} (hs : s.matchable s') (ht : t.matchable t') :
    s.comparable t = s'.comparable t' := by
  revert hs ht
  cases s <;> cases s' <;> cases t <;> cases t' <;> decide

/-- Columns of one type can be matched. -/
theorem Dtype.matchable_refl (t : Dtype) : t.matchable t := by
  simp [matchable]

namespace Condition

variable {operand : Operand} {p q : Predicate}

/-- The words among the operands of a comparison. -/
def Operand.words : Operand → List Text
  | word w => [w]
  | literal _ => []

/-- The bare words in a predicate. -/
def Predicate.words : Predicate → List Text
  | compare _ lhs rhs => lhs.words ++ rhs.words
  | and lhs rhs => lhs.words ++ rhs.words
  | or lhs rhs => lhs.words ++ rhs.words
  | not inner => inner.words

/-! ## Values and outcomes -/

/-- A word stands for the cell in the column of that name, or for itself if there is none. -/
theorem Operand.cell_word {w : Text} :
    (Operand.word w).cell schema row = (row.cell? schema w).getD (.text w) := by
  rw [Operand.cell, Row.cell?]
  split <;> rfl

/-- An operand is equal to the same on two rows that agree on its word. -/
theorem Operand.key_cell_congr (h : ∀ w ∈ operand.words,
      (row.cell? schema w).map Cell.key = (other.cell? others w).map Cell.key) :
    (operand.cell schema row).key = (operand.cell others other).key := by
  cases operand with
  | literal value => rfl
  | word w =>
      have hword := h w (List.mem_singleton_self w)
      rw [cell_word, cell_word, ← Option.getD_map Cell.key, ← Option.getD_map Cell.key, hword]

namespace Predicate

/-- A predicate has the same outcome on two rows that agree on its words. -/
theorem outcome_congr (h : ∀ w ∈ p.words,
      (row.cell? schema w).map Cell.key = (other.cell? others w).map Cell.key) :
    p.outcome schema row = p.outcome others other := by
  induction p with
  | compare op lhs rhs =>
      obtain ⟨hl, hr⟩ := List.forall_mem_append.1 h
      rw [outcome, outcome,
        Cell.compare?_congr (Operand.key_cell_congr hl) (Operand.key_cell_congr hr)]
  | and lhs rhs ihl ihr =>
      obtain ⟨hl, hr⟩ := List.forall_mem_append.1 h
      rw [outcome, outcome, ihl hl, ihr hr]
  | or lhs rhs ihl ihr =>
      obtain ⟨hl, hr⟩ := List.forall_mem_append.1 h
      rw [outcome, outcome, ihl hl, ihr hr]
  | not inner ih => rw [outcome, outcome, ih h]

/-- Rows with equal cells in all columns that are mentioned are kept or not alike. -/
theorem keeps_congr (h : ∀ w ∈ p.words,
      (row.cell? schema w).map Cell.key = (other.cell? others w).map Cell.key) :
    p.keeps schema row = p.keeps others other := by
  rw [keeps, keeps, outcome_congr h]

/-- Repetitions of a row are kept if it is. -/
theorem keeps_of_key (h : a.key = b.key) : p.keeps schema a = p.keeps schema b := by
  refine keeps_congr fun w _ => ?_
  rw [Row.cell?, Row.cell?]
  split
  · rw [Option.map_some, Option.map_some, Row.key_cell, Row.key_cell, h]
  · rfl

/-- A predicate does not see what is behind the columns that its words name. -/
theorem keeps_append (ha : a.length = left.length)
    (h : ∀ w ∈ p.words, w ∈ (left ++ right).names → w ∈ left.names) :
    p.keeps (left ++ right) (a ++ b) = p.keeps left a := by
  refine keeps_congr fun w hw => ?_
  by_cases hleft : w ∈ left.names
  · simp [Row.cell?, hleft, Row.cell_append_left ha hleft]
  · have hright : w ∉ right.names := fun hright =>
      hleft (h w hw (by simp [hright]))
    simp [Row.cell?, hleft, hright]

end Predicate

/-! ## Comparisons of comparable types -/

/-- Operands have types whose values match under two schemas in which their words have. -/
theorem Operand.matchable_dtype (h : ∀ w ∈ operand.words,
      ((word w).dtype schema).matchable ((word w).dtype others)) :
    (operand.dtype schema).matchable (operand.dtype others) := by
  cases operand with
  | literal value => exact Dtype.matchable_refl _
  | word w => exact h w (List.mem_singleton_self w)

namespace Predicate

/-- A predicate compares comparable types under two schemas in which its words have types whose
values match. -/
theorem comparable_congr (h : ∀ w ∈ p.words,
      ((Operand.word w).dtype schema).matchable ((Operand.word w).dtype others)) :
    p.comparable schema = p.comparable others := by
  induction p with
  | compare op lhs rhs =>
      obtain ⟨hl, hr⟩ := List.forall_mem_append.1 h
      exact Dtype.comparable_congr (Operand.matchable_dtype hl) (Operand.matchable_dtype hr)
  | and lhs rhs ihl ihr =>
      obtain ⟨hl, hr⟩ := List.forall_mem_append.1 h
      rw [comparable, comparable, ihl hl, ihr hr]
  | or lhs rhs ihl ihr =>
      obtain ⟨hl, hr⟩ := List.forall_mem_append.1 h
      rw [comparable, comparable, ihl hl, ihr hr]
  | not inner ih => exact ih h

/-- Nor does a predicate see the types of columns behind those that its words name. -/
theorem comparable_append (h : ∀ w ∈ p.words, w ∈ (left ++ right).names → w ∈ left.names) :
    p.comparable (left ++ right) = p.comparable left := by
  refine comparable_congr fun w hw => ?_
  have hcolumn : Schema.column? (left ++ right) w = left.column? w := by
    have happend : Schema.column? (left ++ right) w = (left.column? w).or (right.column? w) :=
      List.find?_append
    cases hleft : left.column? w with
    | some column => rw [happend, hleft, Option.some_or]
    | none =>
        refine Schema.column?_eq_none_iff.2 fun hmem => ?_
        exact Schema.column?_eq_none_iff.1 hleft (h w hw hmem)
  rw [Operand.dtype, Operand.dtype, hcolumn]
  exact Dtype.matchable_refl _

end Predicate

/-! ## Connectives -/

section

variable {s t : Option Bool}

/-- A conjunction is true if both sides are. -/
theorem andKnown_eq_true_iff : andKnown s t = some true ↔ s = some true ∧ t = some true := by
  rcases s with _ | _ | _ <;> rcases t with _ | _ | _ <;> simp [andKnown]

/-- A disjunction is true if one side is, even if the other one is not known. -/
theorem orKnown_eq_true_iff : orKnown s t = some true ↔ s = some true ∨ t = some true := by
  rcases s with _ | _ | _ <;> rcases t with _ | _ | _ <;> simp [orKnown]

/-- A negation is true if what it negates is false, and not if that is not known. -/
theorem notKnown_eq_true_iff : notKnown s = some true ↔ s = some false := by
  rcases s with _ | _ | _ <;> simp [notKnown]

end

namespace Predicate

/-- A conjunction keeps the rows that both sides keep. -/
theorem keeps_and :
    (p.and q).keeps schema = fun row => p.keeps schema row && q.keeps schema row := by
  funext row
  simp [keeps, outcome, andKnown_eq_true_iff]

/-- A disjunction keeps the rows that one side keeps. -/
theorem keeps_or :
    (p.or q).keeps schema = fun row => p.keeps schema row || q.keeps schema row := by
  funext row
  simp [keeps, outcome, orKnown_eq_true_iff]

/-- A negation is true where what it negates is false, and not where that has no outcome. -/
theorem keeps_not : p.not.keeps schema = fun row => p.outcome schema row = some false := by
  funext row
  simp [keeps, outcome, notKnown_eq_true_iff]

end Predicate

end Condition

end RelQuery
