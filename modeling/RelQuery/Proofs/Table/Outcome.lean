import RelQuery.Proofs.Table.Relation

/-!
# Conditions on typed rows

On a row that has a value in every column a predicate has an outcome if the types that it compares
are comparable, and the outcome is whether it is true of the tuple: three-valued logic is only
needed for missing values (`Predicate.keeps_iff`).
-/

namespace RelQuery.Condition

variable {schema : Schema} {row : Row} {operand : Operand} {predicate : Predicate}

/-- An operand stands for the same value on a row and in its tuple. -/
theorem Operand.value_eq :
    operand.value schema.names (row.cell schema) = operand.cell schema row := by
  cases operand with
  | word w => simp [Operand.value, Operand.cell]
  | literal value => rfl

/-- The cell of a literal has the type of the literal. -/
theorem Literal.holds_cell (value : Literal) : value.dtype.Holds value.cell := by
  cases value <;> trivial

/-- What holds of the types and cells of all columns, of literals and of words as text holds of an
operand. -/
theorem Operand.rel_cell {R : Dtype → Cell → Prop}
    (hrow : List.Forall₂ (fun column cell => R column.dtype cell) schema row)
    (hliteral : ∀ value : Literal, R value.dtype value.cell) (hword : ∀ w, R .text (.text w)) :
    R (operand.dtype schema) (operand.cell schema row) := by
  cases operand with
  | literal value => exact hliteral value
  | word w =>
      by_cases hw : w ∈ schema.names
      · obtain ⟨column, hcolumn, -⟩ := Schema.exists_column?_of_mem hw
        simpa [Operand.dtype, Operand.cell, hcolumn, hw] using Row.rel_cell hrow hcolumn
      · have hcolumn : schema.column? w = none := by
          refine List.find?_eq_none.2 fun column hmem hname => ?_
          exact hw (Schema.mem_names_iff.2 ⟨column, hmem, by simpa using hname⟩)
        simpa [Operand.dtype, Operand.cell, hcolumn, hw] using hword w

/-- On a typed row an operand has a value of its type. -/
theorem Operand.holds_cell (hrow : row.Typed schema) :
    (operand.dtype schema).Holds (operand.cell schema row) :=
  rel_cell hrow Literal.holds_cell fun _ => trivial

/-- A predicate that compares comparable types has an outcome on a typed row. -/
theorem Predicate.outcome_eq (hrow : row.Typed schema) (h : predicate.comparable schema) :
    ∃ known, predicate.outcome schema row = some known ∧
      (known ↔ predicate.Holds schema.names (row.cell schema)) := by
  induction predicate with
  | compare op lhs rhs =>
      have hsome := (Operand.holds_cell hrow).isSome_compare? (Operand.holds_cell hrow) h
      obtain ⟨order, horder⟩ := Option.isSome_iff_exists.1 hsome
      refine ⟨op.holds order, by simp [Predicate.outcome, horder], ?_⟩
      simp [Predicate.Holds, Operand.value_eq, horder]
  | and lhs rhs ihl ihr =>
      simp only [Predicate.comparable, Bool.and_eq_true] at h
      obtain ⟨left, hleft, hl⟩ := ihl h.1
      obtain ⟨right, hright, hr⟩ := ihr h.2
      refine ⟨left && right, ?_, ?_⟩
      · rw [Predicate.outcome, hleft, hright]
        cases left <;> cases right <;> rfl
      · rw [Bool.and_eq_true, hl, hr, Predicate.Holds]
  | or lhs rhs ihl ihr =>
      simp only [Predicate.comparable, Bool.and_eq_true] at h
      obtain ⟨left, hleft, hl⟩ := ihl h.1
      obtain ⟨right, hright, hr⟩ := ihr h.2
      refine ⟨left || right, ?_, ?_⟩
      · rw [Predicate.outcome, hleft, hright]
        cases left <;> cases right <;> rfl
      · rw [Bool.or_eq_true, hl, hr, Predicate.Holds]
  | not inner ih =>
      obtain ⟨known, hknown, hi⟩ := ih h
      refine ⟨!known, by simp [Predicate.outcome, hknown, notKnown], ?_⟩
      rw [Predicate.Holds, ← hi, Bool.not_eq_true', Bool.not_eq_true]

/-- A selection keeps the typed rows of which its predicate is true. -/
theorem Predicate.keeps_iff (hrow : row.Typed schema) (h : predicate.comparable schema) :
    predicate.keeps schema row ↔ predicate.Holds schema.names (row.cell schema) := by
  obtain ⟨known, hknown, hholds⟩ := outcome_eq hrow h
  rw [← hholds]
  simp [Predicate.keeps, hknown]

end RelQuery.Condition
