import RelQuery.Proofs.Condition.Combined
import RelQuery.Proofs.Evaluate.Results
import RelQuery.Proofs.Table.Selection

/-!
# Evaluating selections

A predicate has three outcomes on a row: it is true, false or left open by missing cells, and a
selection keeps the rows on which it is true. So `and` selects from a selection, `or` keeps what
either side keeps, and of the rows that `not` does not keep some are not kept without it either
(`evaluate_select_combined`).
-/

namespace RelQuery

open Condition (enclosed readPredicate)

variable {catalog : Catalog} {e : Expr} {frame f : Frame} {condition source : Text}
variable {p q : Condition.Predicate}

/-- The result of the operator is that of a selection. -/
theorem unaryResult_select_iff :
    UnaryResult condition f .select frame ↔ SelectionResult condition f frame := by
  refine ⟨?_, .select⟩
  rintro ⟨h⟩
  exact h

/-- A selection evaluates to its result on what the operand evaluates to. -/
theorem evaluate_select_iff_result :
    evaluate catalog (.unary .select condition e source) = .ok frame ↔
      ∃ f, evaluate catalog e = .ok f ∧ SelectionResult condition f frame := by
  simp only [evaluate_unary_eq_ok_iff, unaryResult_select_iff]

/-- There is no selection by a condition that cannot be read. -/
theorem evaluate_select_ne_ok {error : Condition.ConditionError}
    (hread : readPredicate condition = .error error) :
    evaluate catalog (.unary .select condition e source) ≠ .ok frame := by
  intro h
  obtain ⟨f, -, hother, -⟩ := evaluate_select_iff_result.1 h
  cases hread.symm.trans hother

/-- What a selection makes of a frame, once its condition has been read. -/
theorem selectionResult_iff (hread : readPredicate condition = .ok p) :
    SelectionResult condition f frame ↔
      p.comparable f.schema ∧ f.filter (p.keeps f.schema) = frame := by
  constructor
  · rintro ⟨hother, hcomparable⟩
    cases hread.symm.trans hother
    exact ⟨hcomparable, rfl⟩
  · rintro ⟨hcomparable, rfl⟩
    exact .intro hread hcomparable

/-- With a condition that can be read these are the rows on which it is true. -/
theorem evaluate_select_eq_ok_iff (hread : readPredicate condition = .ok p) :
    evaluate catalog (.unary .select condition e source) = .ok frame ↔
      ∃ f, evaluate catalog e = .ok f ∧ p.comparable f.schema ∧
        f.filter (p.keeps f.schema) = frame := by
  simp only [evaluate_select_iff_result, selectionResult_iff hread]

/-- The selection by a condition from a frame that has been evaluated. -/
theorem evaluate_select_of_ok (hread : readPredicate condition = .ok p)
    (he : evaluate catalog e = .ok f) :
    evaluate catalog (.unary .select condition e source) = .ok frame ↔
      p.comparable f.schema ∧ f.filter (p.keeps f.schema) = frame := by
  rw [evaluate_unary_iff_result he, unaryResult_select_iff, selectionResult_iff hread]

section

variable {left right inner : Text} (hp : readPredicate left = .ok p)
include hp

/-- The negation of a condition selects the rows on which it is false. -/
theorem evaluate_select_not (he : evaluate catalog e = .ok f)
    (hcomparable : p.comparable f.schema) :
    evaluate catalog (.unary .select ("not ".toList ++ enclosed left) e source) =
      .ok (f.filter fun row => p.outcome f.schema row = some false) := by
  have hgap : Condition.IsGap [' '] := Condition.isGap_singleton rfl
  have hmark : Condition.IsNot "not".toList := .inl (by decide)
  have hnot : readPredicate ("not ".toList ++ enclosed left) = .ok p.not := by
    simpa using Condition.readPredicate_not hp hmark hgap
  refine (evaluate_select_of_ok hnot he).2 ⟨hcomparable, ?_⟩
  rw [Condition.Predicate.keeps_not]

variable (hq : readPredicate right = .ok q)
include hq

/-- The conjunction of two conditions selects from a selection. -/
theorem evaluate_select_and :
    evaluate catalog (.unary .select (enclosed left ++ " and ".toList ++ enclosed right) e source) =
        .ok frame ↔
      evaluate catalog (.unary .select left (.unary .select right e inner) source) = .ok frame := by
  have hgap : Condition.IsGap [' '] := Condition.isGap_singleton rfl
  have hmark : Condition.IsAnd "and".toList := .inl (by decide)
  have hand : readPredicate (enclosed left ++ " and ".toList ++ enclosed right) =
      .ok (p.and q) := by
    simpa using Condition.readPredicate_and hp hq hgap hgap hmark
  simp only [evaluate_select_eq_ok_iff hand, evaluate_select_eq_ok_iff hp,
    evaluate_select_eq_ok_iff hq, Condition.Predicate.comparable, Bool.and_eq_true]
  constructor
  · rintro ⟨f, he, ⟨hleft, hright⟩, rfl⟩
    exact ⟨_, ⟨f, he, hright, rfl⟩, hleft, Frame.filter_and.symm⟩
  · rintro ⟨_, ⟨f, he, hright, rfl⟩, hleft, rfl⟩
    exact ⟨f, he, ⟨hleft, hright⟩, Frame.filter_and⟩

/-- The disjunction of two conditions selects the rows on which one of them is true. -/
theorem evaluate_select_or (he : evaluate catalog e = .ok f) (hleft : p.comparable f.schema)
    (hright : q.comparable f.schema) :
    evaluate catalog (.unary .select (enclosed left ++ " or ".toList ++ enclosed right) e source) =
      .ok (f.filter fun row => p.keeps f.schema row || q.keeps f.schema row) := by
  have hgap : Condition.IsGap [' '] := Condition.isGap_singleton rfl
  have hmark : Condition.IsOr "or".toList := .inl (by decide)
  have hor : readPredicate (enclosed left ++ " or ".toList ++ enclosed right) =
      .ok (p.or q) := by
    simpa using Condition.readPredicate_or hp hq hgap hgap hmark
  have hcomparable : (p.or q).comparable f.schema := by
    simp [Condition.Predicate.comparable, hleft, hright]
  refine (evaluate_select_of_ok hor he).2 ⟨hcomparable, ?_⟩
  rw [Condition.Predicate.keeps_or]

end

/-- Selections by combined conditions. The selection by a conjunction is the one by its left side
from the one by its right side, and they fail together. The selection by a disjunction keeps the
rows that the selection by one of its sides keeps, in the order of the operand. A condition is true
on the rows that it selects and false on those that its negation selects, so that no row is in both
selections, and in neither are the rows on which it has no outcome. -/
theorem evaluate_select_combined {left right inner : Text} (hp : readPredicate left = .ok p)
    (hq : readPredicate right = .ok q) :
    let selected (condition : Text) (e : Expr) : Expr := .unary .select condition e source
    (∀ frame, evaluate catalog (selected (enclosed left ++ " and ".toList ++ enclosed right) e) =
        .ok frame ↔
      evaluate catalog (selected left (.unary .select right e inner)) = .ok frame) ∧
    ∀ f kept, evaluate catalog e = .ok f → evaluate catalog (selected left e) = .ok kept →
      (∀ others, evaluate catalog (selected right e) = .ok others →
        evaluate catalog (selected (enclosed left ++ " or ".toList ++ enclosed right) e) =
          .ok (f.filter fun row => row ∈ kept.rows ∨ row ∈ others.rows)) ∧
      ∃ rest, evaluate catalog (selected ("not ".toList ++ enclosed left) e) = .ok rest ∧
        kept = f.filter (fun row => p.outcome f.schema row = some true) ∧
        rest = f.filter (fun row => p.outcome f.schema row = some false) ∧
        (∀ row ∈ f.rows, ¬ (row ∈ kept.rows ∧ row ∈ rest.rows)) ∧
        ∀ row ∈ f.rows, row ∉ kept.rows ∧ row ∉ rest.rows ↔ p.outcome f.schema row = none := by
  intro selected
  refine ⟨fun frame => evaluate_select_and hp hq, fun f kept he hkept => ?_⟩
  obtain ⟨hleft, rfl⟩ := (evaluate_select_of_ok hp he).1 hkept
  have htrue (row : Row) (hrow : row ∈ f.rows) :
      row ∈ (f.filter (p.keeps f.schema)).rows ↔ p.outcome f.schema row = some true := by
    rw [Frame.mem_filter_rows hrow, Condition.Predicate.keeps, decide_eq_true_iff]
  have hfalse (row : Row) (hrow : row ∈ f.rows) :
      row ∈ (f.filter fun row => p.outcome f.schema row = some false).rows ↔
        p.outcome f.schema row = some false := by
    rw [Frame.mem_filter_rows hrow, decide_eq_true_iff]
  refine ⟨fun others hothers => ?_, _, evaluate_select_not hp he hleft, rfl, rfl, ?_, ?_⟩
  · obtain ⟨hright, rfl⟩ := (evaluate_select_of_ok hq he).1 hothers
    have hrows := List.filter_congr (l := f.rows) fun row hrow =>
      show (p.keeps f.schema row || q.keeps f.schema row) =
          decide (row ∈ (f.filter (p.keeps f.schema)).rows ∨
            row ∈ (f.filter (q.keeps f.schema)).rows) by
        simp [Frame.mem_filter_rows hrow]
    refine (evaluate_select_or hp hq he hleft hright).trans ?_
    exact congrArg (fun rows => Except.ok (Frame.mk f.schema rows)) hrows
  · intro row hrow
    rw [htrue row hrow, hfalse row hrow]
    rintro ⟨ht, hf⟩
    cases ht.symm.trans hf
  · intro row hrow
    rw [htrue row hrow, hfalse row hrow]
    rcases p.outcome f.schema row with _ | _ | _ <;> simp

/-- Rows on which the first condition is true, false and left open by a missing cell. The second
condition is true on all of them, on one although a cell that it looks at is missing. -/
theorem evaluate_select_combined_missing :
    let table : Frame := ⟨[⟨['A'], .int64⟩, ⟨['B'], .text⟩],
      [[.int 1, .text ['x']], [.missing, .text ['x']], [.int 3, .missing], [.int 1, .text ['x']]]⟩
    let catalog : Catalog := ⟨[(['R'], table)]⟩
    let selected (condition : Text) (e : Expr) : Expr := .unary .select condition e []
    let left : Text := " A < 2 ".toList
    let right : Text := "B = x or A = 3".toList
    let p : Condition.Predicate := .compare .lt (.word ['A']) (.literal (.int 2))
    let q : Condition.Predicate := .or (.compare .eq (.word ['B']) (.word ['x']))
      (.compare .eq (.word ['A']) (.literal (.int 3)))
    readPredicate left = .ok p ∧ readPredicate right = .ok q ∧
      evaluate catalog (selected left (selected right (.named ['R']))) =
        .ok ⟨table.schema, [[.int 1, .text ['x']], [.int 1, .text ['x']]]⟩ ∧
      evaluate catalog (selected "(A < 2) and (B = x or A = 3)".toList (.named ['R'])) =
        .ok ⟨table.schema, [[.int 1, .text ['x']], [.int 1, .text ['x']]]⟩ ∧
      evaluate catalog (selected "(A < 2) or (B = x or A = 3)".toList (.named ['R'])) = .ok table ∧
      ∃ rest, evaluate catalog (selected "not (A < 2)".toList (.named ['R'])) = .ok rest ∧
        rest.rows = [[.int 3, .missing]] := by
  intro table catalog selected left right p q
  have hp : readPredicate left = .ok p := rfl
  have hq : readPredicate right = .ok q := rfl
  have hnested : evaluate catalog (selected left (selected right (.named ['R']))) =
      .ok ⟨table.schema, [[.int 1, .text ['x']], [.int 1, .text ['x']]]⟩ := rfl
  obtain ⟨hand, hrest⟩ :=
    @evaluate_select_combined catalog (.named ['R']) [] p q left right [] hp hq
  obtain ⟨hor, rest, hnot, -, hrows, -⟩ := hrest table
    ⟨table.schema, [[.int 1, .text ['x']], [.int 1, .text ['x']]]⟩ rfl rfl
  exact ⟨hp, hq, hnested, (hand _).2 hnested, hor table rfl, rest, hnot, congrArg Frame.rows hrows⟩

end RelQuery
