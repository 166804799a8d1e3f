import RelQuery.Proofs.Evaluate.SetRows

/-!
# The parts of an operand

What a row of the left operand is equal to decides whether it matches a row of the right one. So
intersection and difference divide the rows of the left operand between them, and do so by one test
that does not tell repetitions apart (`SetResult.exists_test`): every row repeats exactly one row of
one of the two, and both list first occurrences in the order of the operand
(`evaluate_intersect_difference`).
-/

namespace RelQuery

variable {catalog : Catalog} {lhs rhs : Expr} {first second both rest frame : Frame}
variable {names : List Text} {test : Row → Bool} {row a b : Row} {inner outer : Text}

/-! ## Rows that pass a test and rows that do not -/

/-- A test parts the rows in two. -/
theorem Frame.mem_filter_or_iff :
    row ∈ (frame.filter test).rows ∨ row ∈ (frame.filter fun row => !test row).rows ↔
      row ∈ frame.rows := by
  cases htest : test row <;> simp [filter, htest]

/-- Repetitions pass a test together if it does not tell them apart. -/
theorem Frame.not_repeats_of_filter (htest : ∀ a b : Row, a.key = b.key → test a = test b)
    (ha : a ∈ (frame.filter test).rows) (hb : b ∈ (frame.filter fun row => !test row).rows) :
    ¬ a.Repeats b := by
  intro hrepeats
  have hsame := htest a b (Row.key_eq_iff_repeats.2 hrepeats)
  have hleft : test a := (List.mem_filter.1 ha).2
  have hright : !test b := (List.mem_filter.1 hb).2
  rw [← hsame, hleft] at hright
  cases hright

/-! ## Rows with a match and without -/

/-- Whether a row has a partner may be asked once for equal rows. -/
theorem Frame.distinct_semiJoin : (first.semiJoin names second).distinct =
    first.distinct.filter (hasMatch names first second) :=
  distinct_filter fun _ _ => hasMatch_congr

/-- So may whether it has none. -/
theorem Frame.distinct_antiJoin : (first.antiJoin names second).distinct =
    first.distinct.filter fun row => !hasMatch names first second row :=
  distinct_filter fun _ _ h => congrArg (!·) (hasMatch_congr h)

/-- Intersection has a result if difference has. -/
theorem exists_setResult_intersect_iff :
    (∃ both, SetResult first second .intersect both) ↔
      ∃ rest, SetResult first second .difference rest := by
  simp only [setResult_intersect_iff, setResult_difference_iff, ← and_assoc, exists_and_left,
    exists_eq']

/-- An intersection evaluates if the difference does. -/
theorem exists_evaluate_intersect_iff :
    (∃ both, evaluate catalog (.setOp .intersect lhs rhs inner) = .ok both) ↔
      ∃ rest, evaluate catalog (.setOp .difference lhs rhs outer) = .ok rest := by
  simp only [evaluate_setOp_eq_ok_iff]
  constructor
  · rintro ⟨_, f, g, hf, hg, h⟩
    obtain ⟨rest, hrest⟩ := exists_setResult_intersect_iff.1 ⟨_, h⟩
    exact ⟨rest, f, g, hf, hg, hrest⟩
  · rintro ⟨_, f, g, hf, hg, h⟩
    obtain ⟨both, hboth⟩ := exists_setResult_intersect_iff.2 ⟨_, h⟩
    exact ⟨both, f, g, hf, hg, hboth⟩

/-- The two results are the rows of the left operand without repetitions that pass a test and those
that do not. The test does not tell repetitions apart. -/
theorem SetResult.exists_test (hboth : SetResult first second .intersect both)
    (hrest : SetResult first second .difference rest) :
    ∃ test : Row → Bool, (∀ a b : Row, a.key = b.key → test a = test b) ∧
      both = first.distinct.filter test ∧ rest = first.distinct.filter fun row => !test row := by
  obtain ⟨-, -, rfl⟩ := setResult_intersect_iff.1 hboth
  obtain ⟨-, -, rfl⟩ := setResult_difference_iff.1 hrest
  exact ⟨_, fun _ _ => Frame.hasMatch_congr, Frame.distinct_semiJoin, Frame.distinct_antiJoin⟩

/-! ## Evaluating both -/

/-- Intersection and difference divide the rows of the left operand between them. They can be
evaluated if either can, no row of one repeats a row of the other, and every row of the left operand
repeats exactly one row of one of them. Both have the columns of the left operand and list their
rows once, in the order in which they occur there first. -/
theorem evaluate_intersect_difference :
    ((∃ both, evaluate catalog (.setOp .intersect lhs rhs inner) = .ok both) ↔
      ∃ rest, evaluate catalog (.setOp .difference lhs rhs outer) = .ok rest) ∧
    ∀ first both rest, evaluate catalog lhs = .ok first →
      evaluate catalog (.setOp .intersect lhs rhs inner) = .ok both →
      evaluate catalog (.setOp .difference lhs rhs outer) = .ok rest →
      (∀ a ∈ both.rows, ∀ b ∈ rest.rows, ¬ a.Repeats b) ∧
      (∀ row ∈ first.rows,
        ∃! kept, (kept ∈ both.rows ∨ kept ∈ rest.rows) ∧ row.Repeats kept) ∧
      (both.schema = first.schema ∧ both.RowsDiffer ∧ both.ListsFirsts first) ∧
      (rest.schema = first.schema ∧ rest.RowsDiffer ∧ rest.ListsFirsts first) := by
  refine ⟨exists_evaluate_intersect_iff, fun first both rest hlhs hboth hrest => ?_⟩
  obtain ⟨f, second, hf, hrhs, hboth⟩ := evaluate_setOp_eq_ok_iff.1 hboth
  cases hlhs.symm.trans hf
  obtain ⟨test, htest, rfl, rfl⟩ :=
    hboth.exists_test ((evaluate_setOp_iff_result hlhs hrhs).1 hrest)
  have hlisted (test : Row → Bool) : (first.distinct.filter test).RowsDiffer ∧
      (first.distinct.filter test).ListsFirsts first :=
    have hfirsts := Frame.listsFirsts_filter first test
    ⟨hfirsts.rowsDiffer, hfirsts⟩
  refine ⟨?_, ?_, ⟨rfl, hlisted _⟩, rfl, hlisted _⟩
  · exact fun a ha b hb => Frame.not_repeats_of_filter htest ha hb
  · intro row hrow
    simp only [Frame.mem_filter_or_iff]
    exact Frame.existsUnique_distinct hrow

/-- Relations with their columns in different orders, integers of different sizes, missing cells,
NaNs, zeros of either sign and repeated rows. -/
theorem evaluate_intersect_difference_permuted :
    let zero : Cell := .float ⟨0⟩
    let negativeZero : Cell := .float ⟨0x8000000000000000⟩
    let nan : Cell := .float ⟨0x7FF8000000000000⟩
    let table : Frame := ⟨[⟨['A'], .int32⟩, ⟨['B'], .float64⟩],
      [[.missing, nan], [.int 2, nan], [.int 1, negativeZero], [.int 2, nan], [.int 1, zero]]⟩
    let other : Frame := ⟨[⟨['B'], .float64⟩, ⟨['A'], .int64⟩],
      [[zero, .int 1], [nan, .missing], [zero, .int 2]]⟩
    let catalog : Catalog := ⟨[(['R'], table), (['S'], other)]⟩
    ∃ both rest, evaluate catalog (.named ['R']) = .ok table ∧
      evaluate catalog (.setOp .intersect (.named ['R']) (.named ['S']) []) = .ok both ∧
      evaluate catalog (.setOp .difference (.named ['R']) (.named ['S']) []) = .ok rest ∧
      both.rows = [[.int 1, negativeZero]] ∧ rest.rows = [[.missing, nan], [.int 2, nan]] ∧
      both.ListsFirsts table ∧ rest.ListsFirsts table := by
  intro zero negativeZero nan table other catalog
  have hboth : evaluate catalog (.setOp .intersect (.named ['R']) (.named ['S']) []) =
      .ok ⟨table.schema, [[.int 1, negativeZero]]⟩ := rfl
  obtain ⟨hparts, hlisted⟩ :=
    @evaluate_intersect_difference catalog (.named ['R']) (.named ['S']) [] []
  obtain ⟨rest, hrest⟩ := hparts.1 ⟨_, hboth⟩
  have hrows : rest.rows = [[.missing, nan], [.int 2, nan]] :=
    congrArg Frame.rows (Except.ok.inj (hrest.symm.trans rfl))
  obtain ⟨-, -, ⟨-, -, hfirst⟩, -, -, hsecond⟩ := hlisted table _ _ rfl hboth hrest
  exact ⟨_, rest, rfl, hboth, hrest, rfl, hrows, hfirst, hsecond⟩

end RelQuery
