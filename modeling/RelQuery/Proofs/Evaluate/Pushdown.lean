import RelQuery.Proofs.Evaluate.Selection
import RelQuery.Proofs.Evaluate.SetRows

/-!
# Selections below other operators

A selection from the result of an operator can be made from its operands instead. Set operators keep
the columns of the left operand and the right one has columns of the same names, so that a condition
is true on the same rows of either (`evaluate_select_setOp`). A join puts other columns behind those
of its left operand, and a condition that names none of these can be met before the join
(`evaluate_select_join`).
-/

namespace RelQuery

open Condition (Operand Predicate readPredicate)

variable {catalog : Catalog} {lhs rhs : Expr} {op : Operator} {p : Predicate}
variable {first second joined frame : Frame} {schema others : Schema}
variable {condition source inner outer left right : Text}

/-! ## Conditions on aligned operands -/

/-- A predicate compares comparable types of both operands if they have the same columns. -/
theorem Schema.Appendable.comparable_eq (h : schema.Appendable others) :
    p.comparable others = p.comparable schema := by
  refine (Predicate.comparable_congr fun w _ => ?_).symm
  rw [Operand.dtype, Operand.dtype, Schema.column?_eq_of_perm h.nodup h.perm]
  exact Dtype.matchable_refl _

/-- It does if the types of columns of the same name have values that match. -/
theorem Schema.Alignable.comparable_eq (h : schema.Alignable others)
    (hmatch : ∀ name ∈ schema.names, ((Operand.word name).dtype schema).matchable
      ((Operand.word name).dtype (others.select schema.names))) :
    p.comparable others = p.comparable schema := by
  symm
  refine Predicate.comparable_congr fun w _ => ?_
  by_cases hw : w ∈ schema.names
  · have hdtype : (Operand.word w).dtype (others.select schema.names) =
        (Operand.word w).dtype others := by
      rw [Operand.dtype, Operand.dtype, Schema.column?_select (mem_of_sameColumns h.same) hw]
    exact hdtype ▸ hmatch w hw
  · have hother : w ∉ others.names := mt (mem_iff_of_sameColumns h.same h.nodup w).1 hw
    simp [Operand.dtype, Schema.column?_eq_none_iff.2 hw, Schema.column?_eq_none_iff.2 hother,
      Dtype.matchable_refl]

/-- They are comparable if they can be matched. -/
theorem Schema.Alignable.comparable_of_checkMatch (h : schema.Alignable others)
    (hmatch : Plan.checkMatch schema.names schema (others.select schema.names) = .ok ()) :
    p.comparable others = p.comparable schema := by
  refine h.comparable_eq fun name hname => ?_
  obtain ⟨a, b, ha, hb, hab⟩ := (Plan.checkMatch_eq_ok_iff.1 hmatch).2.2 name hname
  simpa [Operand.dtype, ha, hb] using hab

/-- A selection can be made before an operand is aligned. -/
theorem Schema.Alignable.filter_select (h : first.schema.Alignable second.schema) :
    (second.select first.schema.names).filter (p.keeps (second.schema.select first.schema.names)) =
      (second.filter (p.keeps second.schema)).select first.schema.names :=
  Frame.filter_select fun _ _ => Predicate.keeps_cells h.names_select fun name _ =>
    (mem_iff_of_sameColumns h.same h.nodup name).symm

namespace Frame

/-- A union is filtered like both of its sides: a row is kept or not alike in whichever order its
columns are. -/
theorem filter_union (h : first.schema.Appendable second.schema) :
    (first.append second).distinct.filter (p.keeps first.schema) =
      ((first.filter (p.keeps first.schema)).append
        (second.filter (p.keeps second.schema))).distinct := by
  have hnames (name : Text) : name ∈ first.schema.names ↔ name ∈ second.schema.names :=
    (h.perm.map Column.name).mem_iff
  rw [← distinct_filter fun _ _ => Predicate.keeps_of_key]
  exact congrArg distinct <| filter_append fun _ _ =>
    Predicate.keeps_cells rfl fun name _ => hnames name

/-- An intersection is filtered like both of its sides. -/
theorem filter_intersect (h : first.schema.Alignable second.schema) :
    (first.semiJoin first.schema.names (second.select first.schema.names)).distinct.filter
        (p.keeps first.schema) =
      ((first.filter (p.keeps first.schema)).semiJoin first.schema.names
        ((second.filter (p.keeps second.schema)).select first.schema.names)).distinct := by
  rw [← distinct_filter fun _ _ => Predicate.keeps_of_key, ← h.filter_select]
  exact congrArg distinct <| filter_semiJoin fun _ _ =>
    Predicate.keeps_of_rowsMatch rfl h.names_select

/-- A difference is filtered like its left side. -/
theorem filter_difference :
    (first.antiJoin first.schema.names (second.select first.schema.names)).distinct.filter
        (p.keeps first.schema) =
      ((first.filter (p.keeps first.schema)).antiJoin first.schema.names
        (second.select first.schema.names)).distinct := by
  rw [← distinct_filter fun _ _ => Predicate.keeps_of_key, filter_antiJoin]

end Frame

/-! ## Set operators -/

section

variable (hread : readPredicate condition = .ok p)
include hread

/-- A selection from a union is the union of the selections. -/
theorem evaluate_select_union :
    evaluate catalog (.unary .select condition (.setOp .union lhs rhs inner) source) = .ok frame ↔
      evaluate catalog (.setOp .union (.unary .select condition lhs left)
        (.unary .select condition rhs right) outer) = .ok frame := by
  simp only [evaluate_select_eq_ok_iff hread, evaluate_setOp_eq_ok_iff, setResult_union_iff]
  constructor
  · rintro ⟨_, ⟨f, g, hf, hg, happendable, rfl⟩, hcomparable, rfl⟩
    have hother : p.comparable g.schema := happendable.comparable_eq ▸ hcomparable
    exact ⟨_, _, ⟨f, hf, hcomparable, rfl⟩, ⟨g, hg, hother, rfl⟩, happendable,
      (Frame.filter_union happendable).symm⟩
  · rintro ⟨_, _, ⟨f, hf, hcomparable, rfl⟩, ⟨g, hg, -, rfl⟩, happendable, rfl⟩
    exact ⟨_, ⟨f, g, hf, hg, happendable, rfl⟩, hcomparable, Frame.filter_union happendable⟩

/-- A selection from an intersection is the intersection of the selections. -/
theorem evaluate_select_intersect :
    evaluate catalog (.unary .select condition (.setOp .intersect lhs rhs inner) source) =
        .ok frame ↔
      evaluate catalog (.setOp .intersect (.unary .select condition lhs left)
        (.unary .select condition rhs right) outer) = .ok frame := by
  simp only [evaluate_select_eq_ok_iff hread, evaluate_setOp_eq_ok_iff, setResult_intersect_iff]
  constructor
  · rintro ⟨_, ⟨f, g, hf, hg, halignable, hmatch, rfl⟩, hcomparable, rfl⟩
    have hother : p.comparable g.schema := halignable.comparable_of_checkMatch hmatch ▸ hcomparable
    exact ⟨_, _, ⟨f, hf, hcomparable, rfl⟩, ⟨g, hg, hother, rfl⟩, halignable, hmatch,
      (Frame.filter_intersect halignable).symm⟩
  · rintro ⟨_, _, ⟨f, hf, hcomparable, rfl⟩, ⟨g, hg, -, rfl⟩, halignable, hmatch, rfl⟩
    exact ⟨_, ⟨f, g, hf, hg, halignable, hmatch, rfl⟩, hcomparable,
      Frame.filter_intersect halignable⟩

/-- What is taken away need not be selected. -/
theorem evaluate_select_difference :
    evaluate catalog (.unary .select condition (.setOp .difference lhs rhs inner) source) =
        .ok frame ↔
      evaluate catalog (.setOp .difference (.unary .select condition lhs left) rhs outer) =
        .ok frame := by
  simp only [evaluate_select_eq_ok_iff hread, evaluate_setOp_eq_ok_iff, setResult_difference_iff]
  constructor
  · rintro ⟨_, ⟨f, g, hf, hg, halignable, hmatch, rfl⟩, hcomparable, rfl⟩
    exact ⟨_, g, ⟨f, hf, hcomparable, rfl⟩, hg, halignable, hmatch, Frame.filter_difference.symm⟩
  · rintro ⟨_, g, ⟨f, hf, hcomparable, rfl⟩, hg, halignable, hmatch, rfl⟩
    exact ⟨_, ⟨f, g, hf, hg, halignable, hmatch, rfl⟩, hcomparable, Frame.filter_difference⟩

end

/-- Selections from unions, intersections and differences are unions, intersections and differences
of selections, and fail with them: the same columns and the same rows in the same order. In a
difference the selection is made from the left operand only. -/
theorem evaluate_select_setOp :
    let selected (source : Text) (e : Expr) : Expr := .unary .select condition e source
    (evaluate catalog (selected source (.setOp .union lhs rhs inner)) = .ok frame ↔
      evaluate catalog (.setOp .union (selected left lhs) (selected right rhs) outer) =
        .ok frame) ∧
    (evaluate catalog (selected source (.setOp .intersect lhs rhs inner)) = .ok frame ↔
      evaluate catalog (.setOp .intersect (selected left lhs) (selected right rhs) outer) =
        .ok frame) ∧
    (evaluate catalog (selected source (.setOp .difference lhs rhs inner)) = .ok frame ↔
      evaluate catalog (.setOp .difference (selected left lhs) rhs outer) = .ok frame) := by
  intro selected
  cases hread : readPredicate condition with
  | error error =>
      have hnot {e : Expr} {source : Text} {f : Frame} :
          evaluate catalog (selected source e) ≠ .ok f := evaluate_select_ne_ok hread
      simp [evaluate_setOp_eq_ok_iff, hnot]
  | ok p =>
      exact ⟨evaluate_select_union hread, evaluate_select_intersect hread,
        evaluate_select_difference hread⟩

/-- A condition on a number and a text selects from an intersection what the operands share of the
rows that it is true on. A missing cell fails it, and the types of the numbers may differ. -/
example :
    let catalog : Catalog := ⟨[
      (['R'], ⟨[⟨['A'], .int32⟩, ⟨['B'], .text⟩], [[.int 2, .missing], [.int 1, .text ['x']]]⟩),
      (['S'], ⟨[⟨['B'], .text⟩, ⟨['A'], .int64⟩], [[.text ['x'], .int 1], [.missing, .int 3]]⟩)]⟩
    let selected (e : Expr) : Expr := .unary .select "A < 3 and not (B = y)".toList e []
    let both : Expr := .setOp .intersect (selected (.named ['R'])) (selected (.named ['S'])) []
    evaluate catalog both =
      .ok ⟨[⟨['A'], .int32⟩, ⟨['B'], .text⟩], [[.int 1, .text ['x']]]⟩ := rfl

/-! ## Joins -/

/-- A join puts columns behind those of its left operand. -/
theorem JoinResult.exists_schema (h : JoinResult first second op joined) :
    ∃ others, joined.schema = first.schema ++ others := by
  cases h <;> exact ⟨_, rfl⟩

section

variable (hwords : ∀ w ∈ p.words, w ∈ joined.schema.names → w ∈ first.schema.names)
include hwords

/-- A condition on the left side can be compared in the join if it can there. -/
theorem JoinResult.comparable_eq (h : JoinResult first second op joined) :
    p.comparable joined.schema = p.comparable first.schema := by
  obtain ⟨others, hschema⟩ := h.exists_schema
  rw [hschema] at hwords ⊢
  exact Predicate.comparable_append hwords

/-- The rows of a join that are kept come from the rows of the left operand that are. -/
theorem JoinResult.filter (hfirst : first.Rectangular) (h : JoinResult first second op joined) :
    JoinResult (first.filter (p.keeps first.schema)) second op
      (joined.filter (p.keeps joined.schema)) := by
  -- Every join puts cells behind the rows of its left operand; there no word finds them.
  have hkeeps : ∀ a ∈ first.rows, ∀ b, p.keeps joined.schema (a ++ b) = p.keeps first.schema a := by
    obtain ⟨others, hschema⟩ := h.exists_schema
    rw [hschema] at hwords ⊢
    exact fun a ha b => Predicate.keeps_append (hfirst.length_eq a ha) hwords
  cases h with
  | naturalJoin hcommon hmatch hnodup =>
      rw [Frame.filter_innerJoin hkeeps]
      exact .naturalJoin hcommon hmatch hnodup
  | disjoint hcommon hnodup =>
      rw [Frame.filter_product hkeeps]
      exact .disjoint hcommon hnodup
  | cartesian hnodup =>
      rw [Frame.filter_product hkeeps]
      exact .cartesian hnodup
  | thetaJoin hnodup =>
      rw [Frame.filter_product hkeeps]
      exact .thetaJoin hnodup

end

/-- The selection from a join is the join of a selection from its left operand, with the same rows
in the same order, if no word of the condition names a column of the join that this operand does
not have. The right operand may share columns with it or not. -/
theorem evaluate_select_join (hcatalog : catalog.Rectangular)
    (hread : readPredicate condition = .ok p) (hlhs : evaluate catalog lhs = .ok first)
    (hjoined : evaluate catalog (.join op lhs rhs inner) = .ok joined)
    (hwords : ∀ w ∈ p.words, w ∈ joined.schema.names → w ∈ first.schema.names) :
    evaluate catalog (.unary .select condition (.join op lhs rhs inner) source) = .ok frame ↔
      evaluate catalog (.join op (.unary .select condition lhs left) rhs outer) = .ok frame := by
  obtain ⟨f, second, hf, hrhs, hresult⟩ := evaluate_join_eq_ok_iff.1 hjoined
  cases hlhs.symm.trans hf
  have hfilter := hresult.filter hwords (evaluate_rectangular hcatalog hlhs)
  have hpushed (h : p.comparable first.schema) :
      evaluate catalog (.join op (.unary .select condition lhs left) rhs outer) =
        .ok (joined.filter (p.keeps joined.schema)) :=
    have hselected := (evaluate_select_of_ok hread hlhs).2 ⟨h, rfl⟩
    evaluate_join_eq_ok_iff.2 ⟨_, second, hselected, hrhs, hfilter⟩
  rw [evaluate_select_of_ok hread hjoined, hresult.comparable_eq hwords]
  constructor
  · rintro ⟨h, rfl⟩
    exact hpushed h
  · intro hframe
    obtain ⟨_, _, hselected, -, -⟩ := evaluate_join_eq_ok_iff.1 hframe
    have h := ((evaluate_select_of_ok hread hlhs).1 hselected).1
    exact ⟨h, Except.ok.inj ((hpushed h).symm.trans hframe)⟩

/-- Relations that share a column, with repeated rows and a missing cell. The condition is met
before a product and before a natural join. -/
theorem evaluate_select_join_shared :
    let table : Frame := ⟨[⟨['A'], .int64⟩, ⟨['B'], .text⟩],
      [[.int 1, .text ['x']], [.int 5, .text ['x']], [.missing, .text ['x']],
        [.int 1, .text ['x']]]⟩
    let other : Frame := ⟨[⟨['B'], .text⟩, ⟨['C'], .int64⟩],
      [[.text ['x'], .int 7], [.text ['y'], .missing]]⟩
    let catalog : Catalog := ⟨[(['R'], table), (['S'], other)]⟩
    let condition : Text := "A < 3 and B = x".toList
    let p : Predicate := .and (.compare .lt (.word ['A']) (.literal (.int 3)))
      (.compare .eq (.word ['B']) (.word ['x']))
    let joined (op : Operator) : Expr := .join op (.named ['R']) (.named ['S']) []
    let pushed (op : Operator) : Expr :=
      .join op (.unary .select condition (.named ['R']) []) (.named ['S']) []
    catalog.Rectangular ∧ readPredicate condition = .ok p ∧
      evaluate catalog (.named ['R']) = .ok table ∧
      (∃ frame, evaluate catalog (joined .cartesian) = .ok frame ∧
        ∀ w ∈ p.words, w ∈ frame.schema.names → w ∈ table.schema.names) ∧
      (∃ frame, evaluate catalog (pushed .cartesian) = .ok frame ∧ frame.rows =
        [[.int 1, .text ['x'], .text ['x'], .int 7],
          [.int 1, .text ['x'], .text ['y'], .missing],
          [.int 1, .text ['x'], .text ['x'], .int 7],
          [.int 1, .text ['x'], .text ['y'], .missing]]) ∧
      (∃ frame, evaluate catalog (joined .naturalJoin) = .ok frame ∧
        ∀ w ∈ p.words, w ∈ frame.schema.names → w ∈ table.schema.names) ∧
      ∃ frame, evaluate catalog (pushed .naturalJoin) = .ok frame ∧
        frame.rows = [[.int 1, .text ['x'], .int 7], [.int 1, .text ['x'], .int 7]] := by
  intro table other catalog condition p joined pushed
  have hcatalog : catalog.Rectangular := fun _ _ => Catalog.forall_of_get?
    (List.forall_mem_cons.2 ⟨⟨by decide, by decide⟩,
      List.forall_mem_singleton.2 ⟨by decide, by decide⟩⟩)
  have hread : readPredicate condition = .ok p := rfl
  have hlhs : evaluate catalog (.named ['R']) = .ok table := rfl
  have hproduct : evaluate catalog (joined .cartesian) =
      .ok (table.product other) := rfl
  have hjoin : evaluate catalog (joined .naturalJoin) =
      .ok (table.innerJoin [['B']] other) := rfl
  have hproductWords : ∀ w ∈ p.words, w ∈ (table.product other).schema.names →
      w ∈ table.schema.names := by decide
  have hjoinWords : ∀ w ∈ p.words, w ∈ (table.innerJoin [['B']] other).schema.names →
      w ∈ table.schema.names := by decide
  have hproductPushed {frame : Frame} :
      evaluate catalog (.unary .select condition (joined .cartesian) []) = .ok frame ↔
        evaluate catalog (pushed .cartesian) = .ok frame :=
    evaluate_select_join hcatalog hread hlhs hproduct hproductWords
  have hjoinPushed {frame : Frame} :
      evaluate catalog (.unary .select condition (joined .naturalJoin) []) = .ok frame ↔
        evaluate catalog (pushed .naturalJoin) = .ok frame :=
    evaluate_select_join hcatalog hread hlhs hjoin hjoinWords
  exact ⟨hcatalog, hread, hlhs, ⟨_, hproduct, hproductWords⟩, ⟨_, hproductPushed.1 rfl, rfl⟩,
    ⟨_, hjoin, hjoinWords⟩, ⟨_, hjoinPushed.1 rfl, rfl⟩⟩

end RelQuery
