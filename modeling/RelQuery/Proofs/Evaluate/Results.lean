import RelQuery.Proofs.Evaluate.Shows
import RelQuery.Proofs.Table.Rectangular

/-!
# Evaluation from the results of operands

What an operator makes of the frames of its operands, as relations between frames: `UnaryResult`,
`SetResult` and `JoinResult` list what is checked and what the result is. An expression evaluates
to a frame exactly if its operands evaluate to frames of which the operator makes that one
(`evaluate_unary_eq_ok_iff` and its like), so nothing but the frames of the operands matters, and a
proof about evaluation can forget about plans. What every operator keeps holds of every result
(`evaluate_invariant`): above all, results are rectangular if the relations of the catalog are.
-/

namespace RelQuery

variable {plan input left right : Plan} {frame first second : Frame} {names : List Text}
variable {predicate : Condition.Predicate} {op : Operator} {condition source : Text}
variable {catalog : Catalog} {e lhs rhs : Expr}

/-! ## Carrying out a plan -/

namespace Plan

/-- A plan is carried out if its columns and its predicates can be checked. -/
theorem collect_eq_ok_iff :
    plan.collect = .ok frame ↔
      plan.schema = .ok frame.schema ∧ plan.comparable ∧ plan.frame = frame := by
  rw [collect, bind_eq_ok_iff]
  constructor
  · rintro ⟨schema, hschema, h⟩
    split at h
    · rename_i hcomparable
      cases h
      exact ⟨by rw [frame_schema_eq hschema, hschema], hcomparable, rfl⟩
    · cases h
  · rintro ⟨hschema, hcomparable, rfl⟩
    exact ⟨_, hschema, if_pos hcomparable⟩

/-- A plan that is carried out has the columns that were planned. -/
theorem schema_of_collect (h : plan.collect = .ok frame) : plan.schema = .ok frame.schema :=
  (collect_eq_ok_iff.1 h).1

/-- The frame of a plan that has been checked. -/
theorem collect_eq_ok {schema : Schema} (hschema : plan.schema = .ok schema)
    (hcomparable : plan.comparable) : plan.collect = .ok plan.frame ∧ plan.frame.schema = schema :=
  have hframe := frame_schema_eq hschema
  ⟨collect_eq_ok_iff.2 ⟨hframe ▸ hschema, hcomparable, rfl⟩, hframe⟩

/-- A relation is there already. -/
theorem collect_scan : (scan frame).collect = .ok frame := rfl

/-- A filter is carried out if its predicate can be compared with the columns, and keeps the rows on
which that is true. -/
theorem collect_filter_eq_ok_iff : (filter predicate input).collect = .ok frame ↔
    ∃ f, input.collect = .ok f ∧ predicate.comparable f.schema ∧
      f.filter (predicate.keeps f.schema) = frame := by
  constructor
  · intro h
    obtain ⟨hschema, hcomparable, rfl⟩ := collect_eq_ok_iff.1 h
    have hinput : input.schema = .ok input.frame.schema := hschema
    simp only [comparable, hinput, Bool.and_eq_true] at hcomparable
    exact ⟨input.frame, collect_eq_ok_iff.2 ⟨hinput, hcomparable.1, rfl⟩, hcomparable.2, rfl⟩
  · rintro ⟨f, hf, hpredicate, rfl⟩
    obtain ⟨hschema, hcomparable, rfl⟩ := collect_eq_ok_iff.1 hf
    refine collect_eq_ok_iff.2 ⟨hschema, ?_, rfl⟩
    simp [comparable, hschema, hcomparable, hpredicate]

/-- Columns are selected if every name refers to some and none is selected twice. -/
theorem collect_select_eq_ok_iff : (select names input).collect = .ok frame ↔
    ∃ f referred, input.collect = .ok f ∧ f.schema.referredAll? names = some referred ∧
      (f.schema.select referred).names.Nodup ∧ f.select referred = frame := by
  constructor
  · intro h
    obtain ⟨hschema, hcomparable, rfl⟩ := collect_eq_ok_iff.1 h
    obtain ⟨inner, referred, hinner, hreferred, hnodup, -⟩ := schema_select_eq_ok_iff.1 hschema
    obtain ⟨hcollect, rfl⟩ := collect_eq_ok hinner hcomparable
    exact ⟨input.frame, referred, hcollect, hreferred, hnodup, by simp [Plan.frame, hreferred]⟩
  · rintro ⟨f, referred, hf, hreferred, hnodup, rfl⟩
    obtain ⟨hschema, hcomparable, rfl⟩ := collect_eq_ok_iff.1 hf
    refine collect_eq_ok_iff.2 ⟨?_, hcomparable, by simp [Plan.frame, hreferred]⟩
    exact schema_select_eq_ok_iff.2 ⟨_, referred, hschema, hreferred, hnodup, rfl⟩

/-- Repetitions can always be left out. -/
theorem collect_distinct_eq_ok_iff : (distinct input).collect = .ok frame ↔
    ∃ f, input.collect = .ok f ∧ f.distinct = frame := by
  constructor
  · intro h
    obtain ⟨hschema, hcomparable, rfl⟩ := collect_eq_ok_iff.1 h
    exact ⟨input.frame, collect_eq_ok_iff.2 ⟨hschema, hcomparable, rfl⟩, rfl⟩
  · rintro ⟨f, hf, rfl⟩
    obtain ⟨hschema, hcomparable, rfl⟩ := collect_eq_ok_iff.1 hf
    exact collect_eq_ok_iff.2 ⟨hschema, hcomparable, rfl⟩

/-- Frames are put one behind the other if they have the same columns in any order. -/
theorem collect_append_eq_ok_iff : (append left right).collect = .ok frame ↔
    ∃ f g, left.collect = .ok f ∧ right.collect = .ok g ∧ f.schema.Perm g.schema ∧
      f.append g = frame := by
  constructor
  · intro h
    obtain ⟨hschema, hcomparable, rfl⟩ := collect_eq_ok_iff.1 h
    simp only [comparable, Bool.and_eq_true] at hcomparable
    obtain ⟨hleft, _, hright, hperm⟩ := schema_append_eq_ok_iff.1 hschema
    obtain ⟨hf, hfschema⟩ := collect_eq_ok hleft hcomparable.1
    obtain ⟨hg, rfl⟩ := collect_eq_ok hright hcomparable.2
    exact ⟨_, _, hf, hg, hfschema ▸ hperm, rfl⟩
  · rintro ⟨f, g, hf, hg, hperm, rfl⟩
    obtain ⟨hleft, hcomparable, rfl⟩ := collect_eq_ok_iff.1 hf
    obtain ⟨hright, hcomparable', rfl⟩ := collect_eq_ok_iff.1 hg
    refine collect_eq_ok_iff.2 ⟨?_, by simp [comparable, hcomparable, hcomparable'], rfl⟩
    exact schema_append_eq_ok_iff.2 ⟨hleft, _, hright, hperm⟩

/-- Rows are kept or left out by their partners if the columns to match have the same types. -/
theorem collect_semiJoin_eq_ok_iff : (semiJoin names left right).collect = .ok frame ↔
    ∃ f g, left.collect = .ok f ∧ right.collect = .ok g ∧
      checkMatch names f.schema g.schema = .ok () ∧ f.semiJoin names g = frame := by
  constructor
  · intro h
    obtain ⟨hschema, hcomparable, rfl⟩ := collect_eq_ok_iff.1 h
    simp only [comparable, Bool.and_eq_true] at hcomparable
    obtain ⟨rightSchema, hleft, hright, hmatch⟩ := schema_semiJoin_eq_ok_iff.1 hschema
    obtain ⟨hf, hfschema⟩ := collect_eq_ok hleft hcomparable.1
    obtain ⟨hg, rfl⟩ := collect_eq_ok hright hcomparable.2
    exact ⟨_, _, hf, hg, hfschema ▸ hmatch, rfl⟩
  · rintro ⟨f, g, hf, hg, hmatch, rfl⟩
    obtain ⟨hleft, hcomparable, rfl⟩ := collect_eq_ok_iff.1 hf
    obtain ⟨hright, hcomparable', rfl⟩ := collect_eq_ok_iff.1 hg
    refine collect_eq_ok_iff.2 ⟨?_, by simp [comparable, hcomparable, hcomparable'], rfl⟩
    exact schema_semiJoin_eq_ok_iff.2 ⟨_, hleft, hright, hmatch⟩

/-- Of the columns the same is checked as for the rows that match. -/
theorem collect_antiJoin_eq_ok_iff : (antiJoin names left right).collect = .ok frame ↔
    ∃ f g, left.collect = .ok f ∧ right.collect = .ok g ∧
      checkMatch names f.schema g.schema = .ok () ∧ f.antiJoin names g = frame := by
  constructor
  · intro h
    obtain ⟨hschema, hcomparable, rfl⟩ := collect_eq_ok_iff.1 h
    have hsemi : (semiJoin names left right).schema = .ok _ := hschema
    obtain ⟨f, g, hf, hg, hmatch, -⟩ :=
      collect_semiJoin_eq_ok_iff.1 (collect_eq_ok hsemi hcomparable).1
    obtain ⟨-, -, rfl⟩ := collect_eq_ok_iff.1 hf
    obtain ⟨-, -, rfl⟩ := collect_eq_ok_iff.1 hg
    exact ⟨_, _, hf, hg, hmatch, rfl⟩
  · rintro ⟨f, g, hf, hg, hmatch, rfl⟩
    obtain ⟨hschema, hcomparable, -⟩ := collect_eq_ok_iff.1
      (collect_semiJoin_eq_ok_iff.2 ⟨f, g, hf, hg, hmatch, rfl⟩)
    obtain ⟨-, -, rfl⟩ := collect_eq_ok_iff.1 hf
    obtain ⟨-, -, rfl⟩ := collect_eq_ok_iff.1 hg
    exact collect_eq_ok_iff.2 ⟨hschema, hcomparable, rfl⟩

/-- Rows are joined under the same condition, if the names of the columns stay different. -/
theorem collect_innerJoin_eq_ok_iff : (innerJoin names left right).collect = .ok frame ↔
    ∃ f g, left.collect = .ok f ∧ right.collect = .ok g ∧
      checkMatch names f.schema g.schema = .ok () ∧
      (f.innerJoin names g).schema.names.Nodup ∧ f.innerJoin names g = frame := by
  constructor
  · intro h
    obtain ⟨hschema, hcomparable, rfl⟩ := collect_eq_ok_iff.1 h
    simp only [comparable, Bool.and_eq_true] at hcomparable
    obtain ⟨leftSchema, rightSchema, hleft, hright, hmatch, hnodup, -⟩ :=
      schema_innerJoin_eq_ok_iff.1 hschema
    obtain ⟨hf, rfl⟩ := collect_eq_ok hleft hcomparable.1
    obtain ⟨hg, rfl⟩ := collect_eq_ok hright hcomparable.2
    exact ⟨_, _, hf, hg, hmatch, hnodup, rfl⟩
  · rintro ⟨f, g, hf, hg, hmatch, hnodup, rfl⟩
    obtain ⟨hleft, hcomparable, rfl⟩ := collect_eq_ok_iff.1 hf
    obtain ⟨hright, hcomparable', rfl⟩ := collect_eq_ok_iff.1 hg
    refine collect_eq_ok_iff.2 ⟨?_, by simp [comparable, hcomparable, hcomparable'], rfl⟩
    exact schema_innerJoin_eq_ok_iff.2 ⟨_, _, hleft, hright, hmatch, hnodup, rfl⟩

/-- All rows are combined if the names of the columns stay different. -/
theorem collect_product_eq_ok_iff : (product left right).collect = .ok frame ↔
    ∃ f g, left.collect = .ok f ∧ right.collect = .ok g ∧
      (f.product g).schema.names.Nodup ∧ f.product g = frame := by
  constructor
  · intro h
    obtain ⟨hschema, hcomparable, rfl⟩ := collect_eq_ok_iff.1 h
    simp only [comparable, Bool.and_eq_true] at hcomparable
    obtain ⟨leftSchema, rightSchema, hleft, hright, hnodup, -⟩ :=
      schema_product_eq_ok_iff.1 hschema
    obtain ⟨hf, rfl⟩ := collect_eq_ok hleft hcomparable.1
    obtain ⟨hg, rfl⟩ := collect_eq_ok hright hcomparable.2
    exact ⟨_, _, hf, hg, hnodup, rfl⟩
  · rintro ⟨f, g, hf, hg, hnodup, rfl⟩
    obtain ⟨hleft, hcomparable, rfl⟩ := collect_eq_ok_iff.1 hf
    obtain ⟨hright, hcomparable', rfl⟩ := collect_eq_ok_iff.1 hg
    refine collect_eq_ok_iff.2 ⟨?_, by simp [comparable, hcomparable, hcomparable'], rfl⟩
    exact schema_product_eq_ok_iff.2 ⟨_, _, hleft, hright, hnodup, rfl⟩

end Plan

/-! ## What an operator makes of frames -/

/-- The frame with the rows on which a condition is true. -/
inductive SelectionResult (condition : Text) (input : Frame) : Frame → Prop where
  | intro {predicate : Condition.Predicate}
      (hread : Condition.readPredicate condition = .ok predicate)
      (hcomparable : predicate.comparable input.schema) :
      SelectionResult condition input (input.filter (predicate.keeps input.schema))

/-- What a unary operator makes of a frame. -/
inductive UnaryResult (condition : Text) (input : Frame) : Operator → Frame → Prop where
  | select {result : Frame} (h : SelectionResult condition input result) :
      UnaryResult condition input .select result
  | project {names referred : List Text}
      (hread : Condition.readAttributes condition = .ok names)
      (hmem : ∀ name ∈ names, name ∈ input.schema.names)
      (hreferred : input.schema.referredAll? names = some referred)
      (hnodup : (input.schema.select referred).names.Nodup) :
      UnaryResult condition input .project (input.select referred).distinct

/-- The right operand of a set operator with the columns that the names of the left one refer to, in
this order. -/
inductive Aligned (left right : Frame) : Frame → Prop where
  | intro {referred : List Text} (hsame : sameColumns left.schema.names right.schema.names)
      (hreferred : right.schema.referredAll? left.schema.names = some referred)
      (hnodup : (right.schema.select referred).names.Nodup) :
      Aligned left right (right.select referred)

/-- What a set operator makes of two frames. -/
inductive SetResult (left right : Frame) : Operator → Frame → Prop where
  | union {aligned : Frame} (haligned : Aligned left right aligned)
      (hperm : left.schema.Perm aligned.schema) :
      SetResult left right .union (left.append aligned).distinct
  | intersect {aligned : Frame} (haligned : Aligned left right aligned)
      (hmatch : Plan.checkMatch left.schema.names left.schema aligned.schema = .ok ()) :
      SetResult left right .intersect (left.semiJoin left.schema.names aligned).distinct
  | difference {aligned : Frame} (haligned : Aligned left right aligned)
      (hmatch : Plan.checkMatch left.schema.names left.schema aligned.schema = .ok ()) :
      SetResult left right .difference (left.antiJoin left.schema.names aligned).distinct

/-- What a join makes of two frames. -/
inductive JoinResult (left right : Frame) : Operator → Frame → Prop where
  | naturalJoin (hcommon : left.schema.common right.schema ≠ [])
      (hmatch : Plan.checkMatch (left.schema.common right.schema) left.schema right.schema = .ok ())
      (hnodup : (left.innerJoin (left.schema.common right.schema) right).schema.names.Nodup) :
      JoinResult left right .naturalJoin (left.innerJoin (left.schema.common right.schema) right)
  | disjoint (hcommon : left.schema.common right.schema = [])
      (hnodup : (left.product right).schema.names.Nodup) :
      JoinResult left right .naturalJoin (left.product right)
  | cartesian (hnodup : (left.product right).schema.names.Nodup) :
      JoinResult left right .cartesian (left.product right)
  | thetaJoin (hnodup : (left.product right).schema.names.Nodup) :
      JoinResult left right .thetaJoin (left.product right)

/-! ## Planning an operator -/

/-- A selection from an input that is carried out has the result of a selection. -/
theorem planSelection_collect_iff :
    (∃ plan, planSelection input condition = .ok plan ∧ plan.collect = .ok frame) ↔
      ∃ f, input.collect = .ok f ∧ SelectionResult condition f frame := by
  simp only [planSelection_eq_ok_iff]
  constructor
  · rintro ⟨_, ⟨_, predicate, -, hread, rfl⟩, hcollect⟩
    obtain ⟨f, hf, hcomparable, rfl⟩ := Plan.collect_filter_eq_ok_iff.1 hcollect
    exact ⟨f, hf, .intro hread hcomparable⟩
  · rintro ⟨f, hf, ⟨hread, hcomparable⟩⟩
    refine ⟨_, ⟨_, _, Plan.schema_of_collect hf, hread, rfl⟩, ?_⟩
    exact Plan.collect_filter_eq_ok_iff.2 ⟨f, hf, hcomparable, rfl⟩

/-- A projection has the result of a projection. -/
theorem planProjection_collect_iff :
    (∃ plan, planProjection input condition = .ok plan ∧ plan.collect = .ok frame) ↔
      ∃ f, input.collect = .ok f ∧ UnaryResult condition f .project frame := by
  simp only [planProjection_eq_ok_iff]
  constructor
  · rintro ⟨_, ⟨schema, names, hschema, hread, hmem, rfl⟩, hcollect⟩
    obtain ⟨_, hselect, rfl⟩ := Plan.collect_distinct_eq_ok_iff.1 hcollect
    obtain ⟨f, referred, hf, hreferred, hnodup, rfl⟩ := Plan.collect_select_eq_ok_iff.1 hselect
    cases hschema.symm.trans (Plan.schema_of_collect hf)
    exact ⟨f, hf, .project hread hmem hreferred hnodup⟩
  · rintro ⟨f, hf, hresult⟩
    cases hresult with
    | project hread hmem hreferred hnodup =>
        refine ⟨_, ⟨_, _, Plan.schema_of_collect hf, hread, hmem, rfl⟩, ?_⟩
        have hselect := Plan.collect_select_eq_ok_iff.2 ⟨f, _, hf, hreferred, hnodup, rfl⟩
        exact Plan.collect_distinct_eq_ok_iff.2 ⟨_, hselect, rfl⟩

/-- So both unary operators have their results. -/
theorem planUnary_collect_iff :
    (∃ plan, planUnary op input condition = .ok plan ∧ plan.collect = .ok frame) ↔
      ∃ f, input.collect = .ok f ∧ UnaryResult condition f op frame := by
  cases op with
  | select =>
      refine planSelection_collect_iff.trans (exists_congr fun f => and_congr_right fun _ => ?_)
      constructor
      · exact .select
      · rintro ⟨h⟩
        exact h
  | project => exact planProjection_collect_iff
  | _ =>
      constructor
      · rintro ⟨_, ⟨⟩, _⟩
      · rintro ⟨_, _, ⟨⟩⟩

/-- A set operator over columns of the same names has its plan. -/
theorem SetPlan.planSet_eq {leftSchema rightSchema : Schema}
    (h : SetPlan leftSchema.names left right op plan) (hleft : left.schema = .ok leftSchema)
    (hright : right.schema = .ok rightSchema)
    (hsame : sameColumns leftSchema.names rightSchema.names) :
    planSet op left right = .ok plan := by
  have hl := columnNames_eq_ok_iff.2 ⟨_, hleft, rfl⟩
  have hr := columnNames_eq_ok_iff.2 ⟨_, hright, rfl⟩
  cases h <;> simp [planSet, Operator.category, hl, hr, hsame, bind, Except.bind]

/-- A set operation has its result. -/
theorem planSet_collect_iff :
    (∃ plan, planSet op left right = .ok plan ∧ plan.collect = .ok frame) ↔
      ∃ f g, left.collect = .ok f ∧ right.collect = .ok g ∧ SetResult f g op frame := by
  constructor
  · rintro ⟨plan, hplan, hcollect⟩
    obtain ⟨leftSchema, rightSchema, hleft, hright, hsame, hplan⟩ := planSet_eq_ok hplan
    -- Each operator is one operation on the left operand and the aligned right one.
    cases hplan with
    | union =>
        obtain ⟨_, happend, rfl⟩ := Plan.collect_distinct_eq_ok_iff.1 hcollect
        obtain ⟨f, _, hf, hselect, hperm, rfl⟩ := Plan.collect_append_eq_ok_iff.1 happend
        obtain ⟨g, referred, hg, hreferred, hnodup, rfl⟩ := Plan.collect_select_eq_ok_iff.1 hselect
        cases hleft.symm.trans (Plan.schema_of_collect hf)
        cases hright.symm.trans (Plan.schema_of_collect hg)
        exact ⟨f, g, hf, hg, .union ⟨hsame, hreferred, hnodup⟩ hperm⟩
    | intersect =>
        obtain ⟨_, hjoin, rfl⟩ := Plan.collect_distinct_eq_ok_iff.1 hcollect
        obtain ⟨f, _, hf, hselect, hmatch, rfl⟩ := Plan.collect_semiJoin_eq_ok_iff.1 hjoin
        obtain ⟨g, referred, hg, hreferred, hnodup, rfl⟩ := Plan.collect_select_eq_ok_iff.1 hselect
        cases hleft.symm.trans (Plan.schema_of_collect hf)
        cases hright.symm.trans (Plan.schema_of_collect hg)
        exact ⟨f, g, hf, hg, .intersect ⟨hsame, hreferred, hnodup⟩ hmatch⟩
    | difference =>
        obtain ⟨_, hjoin, rfl⟩ := Plan.collect_distinct_eq_ok_iff.1 hcollect
        obtain ⟨f, _, hf, hselect, hmatch, rfl⟩ := Plan.collect_antiJoin_eq_ok_iff.1 hjoin
        obtain ⟨g, referred, hg, hreferred, hnodup, rfl⟩ := Plan.collect_select_eq_ok_iff.1 hselect
        cases hleft.symm.trans (Plan.schema_of_collect hf)
        cases hright.symm.trans (Plan.schema_of_collect hg)
        exact ⟨f, g, hf, hg, .difference ⟨hsame, hreferred, hnodup⟩ hmatch⟩
  · rintro ⟨f, g, hf, hg, hresult⟩
    have hleft := Plan.schema_of_collect hf
    have hright := Plan.schema_of_collect hg
    cases hresult with
    | union haligned hperm =>
        obtain ⟨hsame, hreferred, hnodup⟩ := haligned
        have hselect := Plan.collect_select_eq_ok_iff.2 ⟨g, _, hg, hreferred, hnodup, rfl⟩
        have happend := Plan.collect_append_eq_ok_iff.2 ⟨f, _, hf, hselect, hperm, rfl⟩
        exact ⟨_, SetPlan.union.planSet_eq hleft hright hsame,
          Plan.collect_distinct_eq_ok_iff.2 ⟨_, happend, rfl⟩⟩
    | intersect haligned hmatch =>
        obtain ⟨hsame, hreferred, hnodup⟩ := haligned
        have hselect := Plan.collect_select_eq_ok_iff.2 ⟨g, _, hg, hreferred, hnodup, rfl⟩
        have hjoin := Plan.collect_semiJoin_eq_ok_iff.2 ⟨f, _, hf, hselect, hmatch, rfl⟩
        exact ⟨_, SetPlan.intersect.planSet_eq hleft hright hsame,
          Plan.collect_distinct_eq_ok_iff.2 ⟨_, hjoin, rfl⟩⟩
    | difference haligned hmatch =>
        obtain ⟨hsame, hreferred, hnodup⟩ := haligned
        have hselect := Plan.collect_select_eq_ok_iff.2 ⟨g, _, hg, hreferred, hnodup, rfl⟩
        have hjoin := Plan.collect_antiJoin_eq_ok_iff.2 ⟨f, _, hf, hselect, hmatch, rfl⟩
        exact ⟨_, SetPlan.difference.planSet_eq hleft hright hsame,
          Plan.collect_distinct_eq_ok_iff.2 ⟨_, hjoin, rfl⟩⟩

/-- A join has its plan. -/
theorem JoinPlan.planJoin_eq (h : JoinPlan left right op plan) :
    planJoin op left right = .ok plan := by
  cases h with
  | naturalJoin hleft hright hcommon =>
      have hl := columnNames_eq_ok_iff.2 ⟨_, hleft, rfl⟩
      have hr := columnNames_eq_ok_iff.2 ⟨_, hright, rfl⟩
      have hempty := List.isEmpty_eq_false_iff.2 hcommon
      simp only [planJoin, hl, hr, bind, Except.bind, hempty, Bool.false_eq_true, if_false]
  | disjoint hleft hright hcommon =>
      have hl := columnNames_eq_ok_iff.2 ⟨_, hleft, rfl⟩
      have hr := columnNames_eq_ok_iff.2 ⟨_, hright, rfl⟩
      have hempty := List.isEmpty_iff.2 hcommon
      simp only [planJoin, hl, hr, bind, Except.bind, hempty, if_true]
  | cartesian => rfl
  | thetaJoin => rfl

/-- A join has its result. -/
theorem planJoin_collect_iff :
    (∃ plan, planJoin op left right = .ok plan ∧ plan.collect = .ok frame) ↔
      ∃ f g, left.collect = .ok f ∧ right.collect = .ok g ∧ JoinResult f g op frame := by
  constructor
  · rintro ⟨plan, hplan, hcollect⟩
    cases planJoin_eq_ok hplan with
    | naturalJoin hleft hright hcommon =>
        obtain ⟨f, g, hf, hg, hmatch, hnodup, rfl⟩ := Plan.collect_innerJoin_eq_ok_iff.1 hcollect
        cases hleft.symm.trans (Plan.schema_of_collect hf)
        cases hright.symm.trans (Plan.schema_of_collect hg)
        exact ⟨f, g, hf, hg, .naturalJoin hcommon hmatch hnodup⟩
    | disjoint hleft hright hcommon =>
        obtain ⟨f, g, hf, hg, hnodup, rfl⟩ := Plan.collect_product_eq_ok_iff.1 hcollect
        cases hleft.symm.trans (Plan.schema_of_collect hf)
        cases hright.symm.trans (Plan.schema_of_collect hg)
        exact ⟨f, g, hf, hg, .disjoint hcommon hnodup⟩
    | cartesian =>
        obtain ⟨f, g, hf, hg, hnodup, rfl⟩ := Plan.collect_product_eq_ok_iff.1 hcollect
        exact ⟨f, g, hf, hg, .cartesian hnodup⟩
    | thetaJoin =>
        obtain ⟨f, g, hf, hg, hnodup, rfl⟩ := Plan.collect_product_eq_ok_iff.1 hcollect
        exact ⟨f, g, hf, hg, .thetaJoin hnodup⟩
  · rintro ⟨f, g, hf, hg, hresult⟩
    have hleft := Plan.schema_of_collect hf
    have hright := Plan.schema_of_collect hg
    cases hresult with
    | naturalJoin hcommon hmatch hnodup =>
        exact ⟨_, (JoinPlan.naturalJoin hleft hright hcommon).planJoin_eq,
          Plan.collect_innerJoin_eq_ok_iff.2 ⟨f, g, hf, hg, hmatch, hnodup, rfl⟩⟩
    | disjoint hcommon hnodup =>
        exact ⟨_, (JoinPlan.disjoint hleft hright hcommon).planJoin_eq,
          Plan.collect_product_eq_ok_iff.2 ⟨f, g, hf, hg, hnodup, rfl⟩⟩
    | cartesian hnodup =>
        exact ⟨_, JoinPlan.cartesian.planJoin_eq,
          Plan.collect_product_eq_ok_iff.2 ⟨f, g, hf, hg, hnodup, rfl⟩⟩
    | thetaJoin hnodup =>
        exact ⟨_, JoinPlan.thetaJoin.planJoin_eq,
          Plan.collect_product_eq_ok_iff.2 ⟨f, g, hf, hg, hnodup, rfl⟩⟩

/-! ## Evaluating an expression -/

/-- Evaluating is planning and carrying out the plan. -/
theorem evaluate_eq_ok_iff_collect : evaluate catalog e = .ok frame ↔
    ∃ plan, resolve catalog e = .ok plan ∧ plan.collect = .ok frame := by
  simp only [evaluate, bind_eq_ok_iff, mapError_eq_ok_iff]

/-- A relation evaluates to its frame. -/
theorem evaluate_named_eq_ok_iff {name : Text} :
    evaluate catalog (.relation name source) = .ok frame ↔ catalog.get? name = some frame := by
  simp only [evaluate_eq_ok_iff_collect, resolve_relation_eq_ok_iff]
  constructor
  · rintro ⟨_, ⟨f, hf, rfl⟩, hcollect⟩
    cases Plan.collect_scan.symm.trans hcollect
    exact hf
  · intro h
    exact ⟨_, ⟨frame, h, rfl⟩, Plan.collect_scan⟩

/-- A unary operation evaluates to its result on what the operand evaluates to. -/
theorem evaluate_unary_eq_ok_iff :
    evaluate catalog (.unary op condition e source) = .ok frame ↔
      ∃ f, evaluate catalog e = .ok f ∧ UnaryResult condition f op frame := by
  simp only [evaluate_eq_ok_iff_collect, resolve_unary_eq_ok_iff]
  constructor
  · rintro ⟨plan, ⟨input, hinput, hplan⟩, hcollect⟩
    obtain ⟨f, hf, hresult⟩ := planUnary_collect_iff.1 ⟨plan, hplan, hcollect⟩
    exact ⟨f, ⟨input, hinput, hf⟩, hresult⟩
  · rintro ⟨f, ⟨input, hinput, hf⟩, hresult⟩
    obtain ⟨plan, hplan, hcollect⟩ := planUnary_collect_iff.2 ⟨f, hf, hresult⟩
    exact ⟨plan, ⟨input, hinput, hplan⟩, hcollect⟩

/-- What a unary operator makes of its operand once it is evaluated. -/
theorem evaluate_unary_iff_result (he : evaluate catalog e = .ok first) :
    evaluate catalog (.unary op condition e source) = .ok frame ↔
      UnaryResult condition first op frame := by
  rw [evaluate_unary_eq_ok_iff]
  constructor
  · rintro ⟨f, hf, h⟩
    cases he.symm.trans hf
    exact h
  · exact fun h => ⟨first, he, h⟩

/-- A set operation evaluates to its result on what the operands evaluate to. -/
theorem evaluate_setOp_eq_ok_iff :
    evaluate catalog (.setOp op lhs rhs source) = .ok frame ↔
      ∃ f g, evaluate catalog lhs = .ok f ∧ evaluate catalog rhs = .ok g ∧
        SetResult f g op frame := by
  simp only [evaluate_eq_ok_iff_collect, resolve_setOp_eq_ok_iff]
  constructor
  · rintro ⟨plan, ⟨left, hleft, right, hright, hplan⟩, hcollect⟩
    obtain ⟨f, g, hf, hg, hresult⟩ := planSet_collect_iff.1 ⟨plan, hplan, hcollect⟩
    exact ⟨f, g, ⟨left, hleft, hf⟩, ⟨right, hright, hg⟩, hresult⟩
  · rintro ⟨f, g, ⟨left, hleft, hf⟩, ⟨right, hright, hg⟩, hresult⟩
    obtain ⟨plan, hplan, hcollect⟩ := planSet_collect_iff.2 ⟨f, g, hf, hg, hresult⟩
    exact ⟨plan, ⟨left, hleft, right, hright, hplan⟩, hcollect⟩

/-- What a set operator makes of its operands once they are evaluated. -/
theorem evaluate_setOp_iff_result (hlhs : evaluate catalog lhs = .ok first)
    (hrhs : evaluate catalog rhs = .ok second) :
    evaluate catalog (.setOp op lhs rhs source) = .ok frame ↔ SetResult first second op frame := by
  rw [evaluate_setOp_eq_ok_iff]
  constructor
  · rintro ⟨f, g, hf, hg, h⟩
    cases hlhs.symm.trans hf
    cases hrhs.symm.trans hg
    exact h
  · exact fun h => ⟨first, second, hlhs, hrhs, h⟩

/-- So does a join. -/
theorem evaluate_join_eq_ok_iff :
    evaluate catalog (.join op lhs rhs source) = .ok frame ↔
      ∃ f g, evaluate catalog lhs = .ok f ∧ evaluate catalog rhs = .ok g ∧
        JoinResult f g op frame := by
  simp only [evaluate_eq_ok_iff_collect, resolve_join_eq_ok_iff]
  constructor
  · rintro ⟨plan, ⟨left, hleft, right, hright, hplan⟩, hcollect⟩
    obtain ⟨f, g, hf, hg, hresult⟩ := planJoin_collect_iff.1 ⟨plan, hplan, hcollect⟩
    exact ⟨f, g, ⟨left, hleft, hf⟩, ⟨right, hright, hg⟩, hresult⟩
  · rintro ⟨f, g, ⟨left, hleft, hf⟩, ⟨right, hright, hg⟩, hresult⟩
    obtain ⟨plan, hplan, hcollect⟩ := planJoin_collect_iff.2 ⟨f, g, hf, hg, hresult⟩
    exact ⟨plan, ⟨left, hleft, right, hright, hplan⟩, hcollect⟩

/-- A join with a condition is the selection of that join. -/
theorem evaluate_conditionalJoin_eq_ok_iff :
    evaluate catalog (.conditionalJoin op condition lhs rhs source) = .ok frame ↔
      ∃ joined, evaluate catalog (.join op lhs rhs source) = .ok joined ∧
        SelectionResult condition joined frame := by
  simp only [evaluate_eq_ok_iff_collect, resolve_conditionalJoin_eq_ok_iff, resolve_join_eq_ok_iff]
  constructor
  · rintro ⟨plan, ⟨left, hleft, right, hright, joined, hjoined, hplan⟩, hcollect⟩
    obtain ⟨f, hf, hresult⟩ := planSelection_collect_iff.1 ⟨plan, hplan, hcollect⟩
    exact ⟨f, ⟨joined, ⟨left, hleft, right, hright, hjoined⟩, hf⟩, hresult⟩
  · rintro ⟨f, ⟨joined, ⟨left, hleft, right, hright, hjoined⟩, hf⟩, hresult⟩
    obtain ⟨plan, hplan, hcollect⟩ := planSelection_collect_iff.2 ⟨f, hf, hresult⟩
    exact ⟨plan, ⟨left, hleft, right, hright, joined, hjoined, hplan⟩, hcollect⟩

/-! ## What operators keep -/

/-- What holds of the relations of a catalog and is kept by every operator holds of every result. -/
theorem evaluate_invariant {P : Frame → Prop}
    (hnamed : ∀ name f, catalog.get? name = some f → P f)
    (hunary : ∀ {condition op f result}, P f → UnaryResult condition f op result → P result)
    (hset : ∀ {op f g result}, P f → P g → SetResult f g op result → P result)
    (hjoin : ∀ {op f g result}, P f → P g → JoinResult f g op result → P result)
    (h : evaluate catalog e = .ok frame) : P frame := by
  induction e generalizing frame with
  | relation name source => exact hnamed name frame (evaluate_named_eq_ok_iff.1 h)
  | unary op condition operand source ih =>
      obtain ⟨f, hf, hresult⟩ := evaluate_unary_eq_ok_iff.1 h
      exact hunary (ih hf) hresult
  | setOp op lhs rhs source ihl ihr =>
      obtain ⟨f, g, hf, hg, hresult⟩ := evaluate_setOp_eq_ok_iff.1 h
      exact hset (ihl hf) (ihr hg) hresult
  | join op lhs rhs source ihl ihr =>
      obtain ⟨f, g, hf, hg, hresult⟩ := evaluate_join_eq_ok_iff.1 h
      exact hjoin (ihl hf) (ihr hg) hresult
  | conditionalJoin op condition lhs rhs source ihl ihr =>
      obtain ⟨joined, hjoined, hresult⟩ := evaluate_conditionalJoin_eq_ok_iff.1 h
      obtain ⟨f, g, hf, hg, hjoined⟩ := evaluate_join_eq_ok_iff.1 hjoined
      exact hunary (hjoin (ihl hf) (ihr hg) hjoined) (.select hresult)

/-- Every relation of the catalog is rectangular. -/
def Catalog.Rectangular (catalog : Catalog) : Prop :=
  ∀ name frame, catalog.get? name = some frame → frame.Rectangular

/-- Unary operators keep a cell for every column in every row. -/
theorem UnaryResult.rectangular (hinput : first.Rectangular)
    (h : UnaryResult condition first op frame) : frame.Rectangular := by
  cases h with
  | select h =>
      cases h
      exact hinput.filter _
  | project hread hmem hreferred hnodup =>
      exact (Frame.Rectangular.select (Schema.mem_names_of_referredAll? hreferred hmem)
        hnodup).distinct

/-- So does lining up columns. -/
theorem Aligned.rectangular (h : Aligned first second frame) : frame.Rectangular := by
  obtain ⟨hsame, hreferred, hnodup⟩ := h
  refine .select (Schema.mem_names_of_referredAll? hreferred ?_) hnodup
  exact mem_of_sameColumns hsame

/-- So do set operators. -/
theorem SetResult.rectangular (hfirst : first.Rectangular) (h : SetResult first second op frame) :
    frame.Rectangular := by
  cases h with
  | union haligned hperm => exact hfirst.append.distinct
  | intersect haligned hmatch => exact (hfirst.filter _).distinct
  | difference haligned hmatch => exact (hfirst.filter _).distinct

/-- So do joins, of two such frames. -/
theorem JoinResult.rectangular (hfirst : first.Rectangular) (hsecond : second.Rectangular)
    (h : JoinResult first second op frame) : frame.Rectangular := by
  cases h with
  | naturalJoin hcommon hmatch hnodup => exact hfirst.innerJoin hnodup
  | disjoint hcommon hnodup => exact hfirst.product hsecond hnodup
  | cartesian hnodup => exact hfirst.product hsecond hnodup
  | thetaJoin hnodup => exact hfirst.product hsecond hnodup

/-- So every result over a catalog of such relations is such a frame. -/
theorem evaluate_rectangular (hcatalog : catalog.Rectangular)
    (h : evaluate catalog e = .ok frame) : frame.Rectangular :=
  evaluate_invariant hcatalog (fun hf hresult => hresult.rectangular hf)
    (fun hf _ hresult => hresult.rectangular hf)
    (fun hf hg hresult => hresult.rectangular hf hg) h

end RelQuery
