import RelQuery.Evaluate

/-!
# What a plan is made of

Each lemma says when one part of planning succeeds and which plan it makes then, the columns and
conditions that it checks included. `get?_isSome_of_resolve` follows: an expression can be planned
only if the catalog has every relation in it. The last lemmas say how a query is run.
-/

namespace RelQuery

variable {catalog : Catalog} {op : Operator} {condition source : Text} {e lhs rhs : Expr}
variable {plan input left right : Plan} {names : List Text}

/-- Two computations in a row succeed if both do. -/
theorem bind_eq_ok_iff {ε α β : Type} {x : Except ε α} {f : α → Except ε β} {b : β} :
    (x >>= f) = .ok b ↔ ∃ a, x = .ok a ∧ f a = .ok b := by
  cases x with
  | error e => exact ⟨nofun, nofun⟩
  | ok a => exact ⟨fun h => ⟨a, rfl, h⟩, fun ⟨_, ha, h⟩ => Except.ok.inj ha ▸ h⟩

/-- Two computations in a row fail if the first one does, or the second one with its result. -/
theorem bind_eq_error_iff {ε α β : Type} {x : Except ε α} {f : α → Except ε β} {e : ε} :
    (x >>= f) = .error e ↔ x = .error e ∨ ∃ a, x = .ok a ∧ f a = .error e := by
  cases x with
  | error e' => simp [bind, Except.bind]
  | ok a => simp [bind, Except.bind]

/-- Giving errors another form leaves success as it is. -/
theorem mapError_eq_ok_iff {ε ε' α : Type} {x : Except ε α} {f : ε → ε'} {a : α} :
    x.mapError f = .ok a ↔ x = .ok a := by
  cases x with
  | error e => exact ⟨nofun, nofun⟩
  | ok b =>
      constructor
      · intro h
        cases h
        rfl
      · intro h
        cases h
        rfl

/-- An error in another form comes from an error. -/
theorem mapError_eq_error_iff {ε ε' α : Type} {x : Except ε α} {f : ε → ε'} {e' : ε'} :
    x.mapError f = .error e' ↔ ∃ e, x = .error e ∧ f e = e' := by
  cases x with
  | error e =>
      constructor
      · intro h
        exact ⟨e, rfl, Except.error.inj h⟩
      · rintro ⟨_, ⟨⟩, rfl⟩
        rfl
  | ok a =>
      constructor
      · intro h
        cases h
      · rintro ⟨_, ⟨⟩, _⟩

/-- There are names of columns just where there is a schema. -/
theorem columnNames_eq_ok_iff :
    columnNames input = .ok names ↔ ∃ schema, input.schema = .ok schema ∧ schema.names = names := by
  rw [columnNames, mapError_eq_ok_iff]
  cases input.schema <;> simp [Except.map]

/-- A selection can be planned if its input has a schema and its condition can be read. The columns
in the condition are not looked at yet. -/
theorem planSelection_eq_ok_iff :
    planSelection input condition = .ok plan ↔ ∃ schema predicate, input.schema = .ok schema ∧
      Condition.readPredicate condition = .ok predicate ∧ plan = .filter predicate input := by
  simp only [planSelection, bind_eq_ok_iff, columnNames_eq_ok_iff, mapError_eq_ok_iff,
    Except.ok.injEq]
  constructor
  · rintro ⟨_, ⟨schema, hschema, -⟩, predicate, hpredicate, rfl⟩
    exact ⟨schema, predicate, hschema, hpredicate, rfl⟩
  · rintro ⟨schema, predicate, hschema, hpredicate, rfl⟩
    exact ⟨_, ⟨schema, hschema, rfl⟩, predicate, hpredicate, rfl⟩

/-- A projection can be planned if its input has all columns that are listed. -/
theorem planProjection_eq_ok_iff :
    planProjection input condition = .ok plan ↔ ∃ schema names, input.schema = .ok schema ∧
      Condition.readAttributes condition = .ok names ∧ (∀ name ∈ names, name ∈ schema.names) ∧
      plan = .distinct (.select names input) := by
  simp only [planProjection, bind_eq_ok_iff, columnNames_eq_ok_iff, mapError_eq_ok_iff]
  constructor
  · rintro ⟨_, ⟨schema, hschema, rfl⟩, names, hnames, h⟩
    split at h
    · cases h
    · rename_i hfind
      cases h
      exact ⟨schema, names, hschema, hnames, by simpa using hfind, rfl⟩
  · rintro ⟨schema, names, hschema, hnames, hmem, rfl⟩
    have hfind : names.find? (fun name => !schema.names.contains name) = none := by simpa using hmem
    exact ⟨_, ⟨schema, hschema, rfl⟩, names, hnames, by rw [hfind]⟩

/-- The plan of a set operator, once the columns of the right operand are in the order of the left
one. -/
inductive SetPlan (names : List Text) (left right : Plan) : Operator → Plan → Prop where
  | union : SetPlan names left right .union (.distinct (.append left (.select names right)))
  | intersect :
      SetPlan names left right .intersect (.distinct (.semiJoin names left (.select names right)))
  | difference :
      SetPlan names left right .difference (.distinct (.antiJoin names left (.select names right)))

/-- What is planned for a set operation has operands with the same columns. -/
theorem planSet_eq_ok (h : planSet op left right = .ok plan) :
    ∃ leftSchema rightSchema, left.schema = .ok leftSchema ∧ right.schema = .ok rightSchema ∧
      sameColumns leftSchema.names rightSchema.names ∧
      SetPlan leftSchema.names left right op plan := by
  unfold planSet at h
  split at h
  · simp only [bind_eq_ok_iff, columnNames_eq_ok_iff] at h
    obtain ⟨_, ⟨leftSchema, hleft, rfl⟩, _, ⟨rightSchema, hright, rfl⟩, h⟩ := h
    split at h
    · rename_i hsame
      refine ⟨leftSchema, rightSchema, hleft, hright, hsame, ?_⟩
      cases op <;> cases h
      · exact .union
      · exact .intersect
      · exact .difference
    · cases h
  · cases h

/-- The plan of a join. -/
inductive JoinPlan (left right : Plan) : Operator → Plan → Prop where
  | naturalJoin {leftSchema rightSchema : Schema} (hleft : left.schema = .ok leftSchema)
      (hright : right.schema = .ok rightSchema)
      (hcommon : leftSchema.names.filter (fun name => rightSchema.names.contains name) ≠ []) :
      JoinPlan left right .naturalJoin (.innerJoin
        (leftSchema.names.filter fun name => rightSchema.names.contains name) left right)
  | disjoint {leftSchema rightSchema : Schema} (hleft : left.schema = .ok leftSchema)
      (hright : right.schema = .ok rightSchema)
      (hcommon : leftSchema.names.filter (fun name => rightSchema.names.contains name) = []) :
      JoinPlan left right .naturalJoin (.product left right)
  | cartesian : JoinPlan left right .cartesian (.product left right)
  | thetaJoin : JoinPlan left right .thetaJoin (.product left right)

/-- What is planned for a join is a plan for it. -/
theorem planJoin_eq_ok (h : planJoin op left right = .ok plan) : JoinPlan left right op plan := by
  unfold planJoin at h
  split at h
  · simp only [bind_eq_ok_iff, columnNames_eq_ok_iff] at h
    obtain ⟨_, ⟨leftSchema, hleft, rfl⟩, _, ⟨rightSchema, hright, rfl⟩, h⟩ := h
    split at h
    · rename_i hempty
      cases h
      exact .disjoint hleft hright (List.isEmpty_iff.1 hempty)
    · rename_i hempty
      cases h
      exact .naturalJoin hleft hright (fun hnil => hempty (List.isEmpty_iff.2 hnil))
  · cases h
    exact .cartesian
  · cases h
    exact .thetaJoin
  · cases h

/-- A relation is planned as its frame, if the catalog has it. -/
theorem resolve_relation_eq_ok_iff {name : Text} :
    resolve catalog (.relation name source) = .ok plan ↔
      ∃ frame, catalog.get? name = some frame ∧ plan = .scan frame := by
  rw [resolve]
  cases catalog.get? name <;> simp [eq_comm]

/-- A unary operation is planned behind its operand. -/
theorem resolve_unary_eq_ok_iff :
    resolve catalog (.unary op condition e source) = .ok plan ↔
      ∃ input, resolve catalog e = .ok input ∧ planUnary op input condition = .ok plan := by
  rw [resolve, bind_eq_ok_iff]

/-- A set operation is planned behind both of its operands. -/
theorem resolve_setOp_eq_ok_iff :
    resolve catalog (.setOp op lhs rhs source) = .ok plan ↔
      ∃ left, resolve catalog lhs = .ok left ∧ ∃ right, resolve catalog rhs = .ok right ∧
        planSet op left right = .ok plan := by
  simp only [resolve, bind_eq_ok_iff]

/-- So is a join. -/
theorem resolve_join_eq_ok_iff :
    resolve catalog (.join op lhs rhs source) = .ok plan ↔
      ∃ left, resolve catalog lhs = .ok left ∧ ∃ right, resolve catalog rhs = .ok right ∧
        planJoin op left right = .ok plan := by
  simp only [resolve, bind_eq_ok_iff]

/-- A conditional join is planned as a selection from a join. -/
theorem resolve_conditionalJoin_eq_ok_iff :
    resolve catalog (.conditionalJoin op condition lhs rhs source) = .ok plan ↔
      ∃ left, resolve catalog lhs = .ok left ∧ ∃ right, resolve catalog rhs = .ok right ∧
        ∃ joined, planJoin op left right = .ok joined ∧
          planSelection joined condition = .ok plan := by
  simp only [resolve, bind_eq_ok_iff]

/-- An expression evaluates to a frame if there is a plan for it that has a schema and compares no
values that cannot be compared. -/
theorem evaluate_eq_ok_iff {frame : Frame} :
    evaluate catalog e = .ok frame ↔ ∃ plan schema, resolve catalog e = .ok plan ∧
      plan.schema = .ok schema ∧ plan.comparable ∧ frame = plan.frame := by
  simp only [evaluate, bind_eq_ok_iff, mapError_eq_ok_iff, Plan.collect]
  constructor
  · rintro ⟨plan, hplan, schema, hschema, h⟩
    split at h
    · rename_i hcomparable
      cases h
      exact ⟨plan, schema, hplan, hschema, hcomparable, rfl⟩
    · cases h
  · rintro ⟨plan, schema, hplan, hschema, hcomparable, rfl⟩
    exact ⟨plan, hplan, schema, hschema, by rw [if_pos hcomparable]⟩

/-- An expression can be planned only if the catalog has all relations in it. -/
theorem get?_isSome_of_resolve (h : resolve catalog e = .ok plan) :
    ∀ name ∈ e.relationNames, (catalog.get? name).isSome := by
  induction e generalizing plan with
  | relation name source =>
      obtain ⟨frame, hframe, -⟩ := resolve_relation_eq_ok_iff.1 h
      simp [Expr.relationNames, hframe]
  | unary op condition operand source ih =>
      obtain ⟨input, hinput, -⟩ := resolve_unary_eq_ok_iff.1 h
      exact ih hinput
  | setOp op lhs rhs source ihl ihr =>
      obtain ⟨left, hleft, right, hright, -⟩ := resolve_setOp_eq_ok_iff.1 h
      exact List.forall_mem_append.2 ⟨ihl hleft, ihr hright⟩
  | join op lhs rhs source ihl ihr =>
      obtain ⟨left, hleft, right, hright, -⟩ := resolve_join_eq_ok_iff.1 h
      exact List.forall_mem_append.2 ⟨ihl hleft, ihr hright⟩
  | conditionalJoin op condition lhs rhs source ihl ihr =>
      obtain ⟨left, hleft, right, hright, -⟩ := resolve_conditionalJoin_eq_ok_iff.1 h
      exact List.forall_mem_append.2 ⟨ihl hleft, ihr hright⟩

/-! ## Running a query -/

/-- The settings with which a query is read that is run on a catalog. -/
def Catalog.settings (catalog : Catalog) : Syntax.Settings where
  known := some catalog.names

variable {query : Text} {frame : Frame}

/-- A query runs if it can be read and what is read evaluates. -/
theorem run_eq_ok_iff :
    run catalog query = .ok frame ↔ ∃ n,
      Syntax.readQuery catalog.settings query = .ok n ∧
      evaluate catalog n = .ok frame := by
  simp only [run, Catalog.settings, bind_eq_ok_iff, mapError_eq_ok_iff]

/-- An error in evaluating comes from a query that can be read. -/
theorem run_eq_eval_iff {cause : EvalError} :
    run catalog query = .error (.eval cause) ↔ ∃ n,
      Syntax.readQuery catalog.settings query = .ok n ∧
      evaluate catalog n = .error cause := by
  simp [run, Catalog.settings, bind_eq_error_iff, mapError_eq_ok_iff, mapError_eq_error_iff]

/-- Any other error is one in reading. -/
theorem run_eq_read_iff {e : Syntax.ReadError} :
    run catalog query = .error (.read e) ↔
      Syntax.readQuery catalog.settings query = .error e := by
  simp [run, Catalog.settings, bind_eq_error_iff, mapError_eq_error_iff]

end RelQuery
