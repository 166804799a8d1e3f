import RelQuery.Proofs.Table.Predicate

/-!
# Selections before and after other operations

The rows that fail a test can be left out before an operation or after it, if the test says of the
rows of the result what it says of the rows that they come from. For predicates it does where the
words name the same columns, since a row of the result has the cells of the rows it comes from, or
cells that match them.
-/

namespace RelQuery

variable {schema others : Schema} {frame left right : Frame} {row a b : Row} {wanted : List Text}
variable {test other : Row → Bool} {p q : Condition.Predicate}

/-- What is made of the elements that fail a test is left out with them. -/
theorem filter_flatMap_of_left {α β : Type} {xs : List α} {make : α → List β} {test : β → Bool}
    {first : α → Bool} (h : ∀ x ∈ xs, ∀ y ∈ make x, test y = first x) :
    (xs.flatMap make).filter test = (xs.filter first).flatMap make := by
  induction xs with
  | nil => rfl
  | cons x xs ih =>
      obtain ⟨hx, hxs⟩ := List.forall_mem_cons.1 h
      rw [List.flatMap_cons, List.filter_append, ih hxs]
      by_cases hfirst : first x
      · have hall : (make x).filter test = make x :=
          List.filter_eq_self.2 fun y hy => (hx y hy).trans hfirst
        rw [hall, List.filter_cons_of_pos hfirst, List.flatMap_cons]
      · have hnone : (make x).filter test = [] :=
          List.filter_eq_nil_iff.2 fun y hy => hx y hy ▸ hfirst
        rw [hnone, List.filter_cons_of_neg hfirst, List.nil_append]

/-! ## Rows that a predicate does not tell apart -/

namespace Condition.Predicate

/-- The cells of some columns, wherever these stand, are kept if the row is, as long as no word names
one of the others. -/
theorem keeps_cells (hothers : others.names = wanted)
    (hsame : ∀ w ∈ p.words, w ∈ wanted ↔ w ∈ schema.names) :
    p.keeps others (row.cells schema wanted) = p.keeps schema row := by
  refine keeps_congr fun w hword => ?_
  by_cases hw : w ∈ wanted
  · simp [Row.cell?, hothers, hw, (hsame w hword).1 hw, Row.cell_cells hothers hw]
  · simp [Row.cell?, hothers, hw, mt (hsame w hword).2 hw]

/-- Nor then does the predicate see the types of the others. -/
theorem comparable_select (hwanted : ∀ name ∈ wanted, name ∈ schema.names)
    (hsame : ∀ w ∈ p.words, w ∈ schema.names → w ∈ wanted) :
    p.comparable (schema.select wanted) = p.comparable schema := by
  refine comparable_congr fun w hword => ?_
  have hcolumn : (schema.select wanted).column? w = schema.column? w := by
    by_cases hw : w ∈ schema.names
    · exact Schema.column?_select hwanted (hsame w hword hw)
    · have hother : w ∉ (schema.select wanted).names := by
        rw [Schema.names_select hwanted]
        exact fun hmem => hw (hwanted w hmem)
      rw [Schema.column?_eq_none_iff.2 hw, Schema.column?_eq_none_iff.2 hother]
  rw [Operand.dtype, Operand.dtype, hcolumn]
  exact Dtype.matchable_refl _

/-- Rows that match in all columns are kept on either side. -/
theorem keeps_of_rowsMatch {left right : Schema} (hleft : left.names = wanted)
    (hright : right.names = wanted) (h : Frame.rowsMatch wanted left right a b) :
    p.keeps left a = p.keeps right b := by
  refine keeps_congr fun w _ => ?_
  by_cases hw : w ∈ wanted
  · have hcells := Cell.matching_iff_key.1 (List.all_eq_true.1 h w hw)
    simp [Row.cell?, hleft, hright, hw, hcells.2]
  · simp [Row.cell?, hleft, hright, hw]

end Condition.Predicate

namespace Frame

/-! ## Set operators -/

/-- Columns can be selected after the rows, if the rows pass that do with these columns alone. -/
theorem filter_select (h : ∀ row ∈ frame.rows, test (row.cells frame.schema wanted) = other row) :
    (frame.select wanted).filter test = (frame.filter other).select wanted := by
  have hrows : frame.rows.filter (test ∘ fun row => row.cells frame.schema wanted) =
      frame.rows.filter other := List.filter_congr h
  rw [select, select, filter, filter]
  split
  · rfl
  · rw [List.filter_map, hrows]

/-- Of appended rows those are left that are left of either frame. -/
theorem filter_append (h : ∀ row ∈ right.rows,
      test (row.cells right.schema left.schema.names) = other row) :
    (left.append right).filter test = (left.filter test).append (right.filter other) := by
  have hrest : (right.select left.schema.names).rows.filter test =
      ((right.filter other).select left.schema.names).rows := congrArg rows (filter_select h)
  rw [append, filter, List.filter_append, hrest]
  rfl

/-- Whether a row has a partner does not depend on the other rows of its side. -/
theorem filter_antiJoin :
    (left.antiJoin wanted right).filter test = (left.filter test).antiJoin wanted right := by
  rw [antiJoin, filter, filter, List.filter_comm]
  rfl

/-- Rows that match are left out on either side. -/
theorem filter_semiJoin (h : ∀ a b, rowsMatch wanted left.schema right.schema a b →
      test a = other b) :
    (left.semiJoin wanted right).filter test =
      (left.filter test).semiJoin wanted (right.filter other) := by
  have hmatch (row : Row) (hrow : test row) :
      hasMatch wanted (left.filter test) (right.filter other) row =
        hasMatch wanted left right row := by
    rw [Bool.eq_iff_iff]
    simp only [hasMatch, filter, List.any_eq_true, List.mem_filter]
    constructor
    · rintro ⟨b, ⟨hb, -⟩, hmatch⟩
      exact ⟨b, hb, hmatch⟩
    · rintro ⟨b, hb, hmatch⟩
      exact ⟨b, ⟨hb, h row b hmatch ▸ hrow⟩, hmatch⟩
  have hrows : (left.rows.filter test).filter
      (hasMatch wanted (left.filter test) (right.filter other)) =
        (left.rows.filter test).filter (hasMatch wanted left right) :=
    List.filter_congr fun row hrow => hmatch row (List.mem_filter.1 hrow).2
  rw [semiJoin, semiJoin, filter, filter, filter, List.filter_comm, ← hrows]
  rfl

/-! ## Selections -/

/-- The selection by a conjunction is a selection from a selection. -/
theorem filter_and : frame.filter ((p.and q).keeps frame.schema) =
    (frame.filter (q.keeps frame.schema)).filter (p.keeps frame.schema) := by
  rw [Condition.Predicate.keeps_and, filter, filter, filter, List.filter_filter]

/-- A row is left in the result exactly if it passes the test. -/
theorem mem_filter_rows (hrow : row ∈ frame.rows) : row ∈ (frame.filter test).rows ↔ test row := by
  simp [filter, hrow]

/-! ## Joins -/

/-- A test of the left side may come before all rows are combined. -/
theorem filter_product (h : ∀ a ∈ left.rows, ∀ b, test (a ++ b) = other a) :
    (left.product right).filter test = (left.filter other).product right := by
  refine congrArg (Frame.mk _) (filter_flatMap_of_left fun a ha row hrow => ?_)
  obtain ⟨b, -, rfl⟩ := List.mem_map.1 hrow
  exact h a ha b

/-- It may come before rows are joined. -/
theorem filter_innerJoin (h : ∀ a ∈ left.rows, ∀ b, test (a ++ b) = other a) :
    (left.innerJoin wanted right).filter test = (left.filter other).innerJoin wanted right := by
  refine congrArg (Frame.mk _) (filter_flatMap_of_left fun a ha row hrow => ?_)
  obtain ⟨b, -, rfl⟩ := List.mem_map.1 hrow
  exact h a ha _

end Frame

end RelQuery
