import RelQuery.Proofs.Evaluate.Shows

/-!
# Evaluation is checked by columns alone

Every check of evaluation looks at the names and types of columns, and none at the rows. It is shown
by emptying all relations of the catalog: each part of planning and of carrying out a plan then
gives the same result with the rows left out, errors included (`resolve_emptied`,
`Plan.collect_emptied`). Two catalogs that have the same columns under the names in a tree are the
same for it once they are emptied, so that the tree evaluates to the same columns in both or fails
in both with the same error (`evaluate_schema_congr`).
-/

namespace RelQuery

/-! ## Leaving out the rows -/

/-- The columns without the rows. -/
def Frame.emptied (frame : Frame) : Frame :=
  { frame with rows := [] }

/-- The same plan for relations without rows. -/
def Plan.emptied : Plan → Plan
  | scan frame => scan frame.emptied
  | filter predicate input => filter predicate input.emptied
  | select names input => select names input.emptied
  | distinct input => distinct input.emptied
  | append left right => append left.emptied right.emptied
  | semiJoin names left right => semiJoin names left.emptied right.emptied
  | antiJoin names left right => antiJoin names left.emptied right.emptied
  | innerJoin names left right => innerJoin names left.emptied right.emptied
  | product left right => product left.emptied right.emptied

/-- The catalog with all its relations emptied. -/
def Catalog.emptied (catalog : Catalog) : Catalog where
  entries := catalog.entries.map fun entry => (entry.1, entry.2.emptied)

variable {catalog other : Catalog} {e : Expr} {name : Text}

/-- Relations are the same without rows if they have the same columns. -/
theorem Frame.map_emptied_eq_iff {first second : Option Frame} :
    first.map emptied = second.map emptied ↔ first.map schema = second.map schema := by
  cases first <;> cases second <;> simp [emptied]

/-- Emptied relations are found under the same names. -/
theorem Catalog.get?_emptied :
    catalog.emptied.get? name = (catalog.get? name).map Frame.emptied := by
  unfold Catalog.get? Catalog.emptied
  induction catalog.entries with
  | nil => rfl
  | cons entry entries ih =>
      obtain ⟨key, value⟩ := entry
      simp only [List.map_cons, List.lookup_cons, ih]
      cases name == key <;> rfl

/-! ## Plans -/

namespace Plan

/-- A plan has the same columns over emptied relations. -/
theorem schema_emptied (plan : Plan) : plan.emptied.schema = plan.schema := by
  induction plan with
  | scan frame => rfl
  | filter predicate input ih => exact ih
  | select names input ih => simp only [emptied, Plan.schema, ih]
  | distinct input ih => exact ih
  | append left right ihl ihr => simp only [emptied, Plan.schema, ihl, ihr]
  | semiJoin names left right ihl ihr => simp only [emptied, Plan.schema, ihl, ihr]
  | antiJoin names left right ihl ihr => simp only [emptied, Plan.schema, ihl, ihr]
  | innerJoin names left right ihl ihr => simp only [emptied, Plan.schema, ihl, ihr]
  | product left right ihl ihr => simp only [emptied, Plan.schema, ihl, ihr]

/-- Whether values can be compared is asked of types alone. -/
theorem comparable_emptied (plan : Plan) : plan.emptied.comparable = plan.comparable := by
  induction plan with
  | scan frame => rfl
  | filter predicate input ih => simp only [emptied, comparable, ih, schema_emptied]
  | select names input ih => exact ih
  | distinct input ih => exact ih
  | append left right ihl ihr => simp only [emptied, comparable, ihl, ihr]
  | semiJoin names left right ihl ihr => simp only [emptied, comparable, ihl, ihr]
  | antiJoin names left right ihl ihr => simp only [emptied, comparable, ihl, ihr]
  | innerJoin names left right ihl ihr => simp only [emptied, comparable, ihl, ihr]
  | product left right ihl ihr => simp only [emptied, comparable, ihl, ihr]

/-- The columns of what a plan is carried out to, or why it is not, are read off the plan's columns
and predicates. -/
theorem map_schema_collect (plan : Plan) : plan.collect.map Frame.schema =
    (do
      let schema ← plan.schema
      if plan.comparable then .ok schema else .error .incomparable) := by
  unfold collect
  cases hschema : plan.schema with
  | error fault => rfl
  | ok schema =>
      cases hcomparable : plan.comparable with
      | false => rfl
      | true =>
          show Except.ok plan.frame.schema = Except.ok schema
          rw [frame_schema_eq hschema]

/-- A plan can be carried out on the rows if it can be without them, to the same columns. -/
theorem collect_emptied (plan : Plan) :
    plan.emptied.collect.map Frame.schema = plan.collect.map Frame.schema := by
  rw [map_schema_collect, map_schema_collect, schema_emptied, comparable_emptied]

end Plan

/-! ## Operators -/

/-- The names of the columns are the same. -/
theorem columnNames_emptied (input : Plan) : columnNames input.emptied = columnNames input := by
  rw [columnNames, Plan.schema_emptied, columnNames]

/-- A selection is planned the same way over emptied relations. -/
theorem planSelection_emptied (input : Plan) (condition : Text) :
    planSelection input.emptied condition = (planSelection input condition).map Plan.emptied := by
  unfold planSelection
  rw [columnNames_emptied]
  cases columnNames input with
  | error cause => rfl
  | ok columns =>
      cases Condition.readPredicate condition with
      | error cause => rfl
      | ok predicate => rfl

/-- So is a projection. -/
theorem planProjection_emptied (input : Plan) (condition : Text) :
    planProjection input.emptied condition =
      (planProjection input condition).map Plan.emptied := by
  unfold planProjection
  rw [columnNames_emptied]
  cases columnNames input with
  | error cause => rfl
  | ok columns =>
      cases Condition.readAttributes condition with
      | error cause => rfl
      | ok names =>
          simp only [bind, Except.bind, Except.mapError]
          split <;> rfl

/-- So are unary operations. -/
theorem planUnary_emptied (op : Operator) (input : Plan) (condition : Text) :
    planUnary op input.emptied condition = (planUnary op input condition).map Plan.emptied := by
  cases op with
  | select => exact planSelection_emptied input condition
  | project => exact planProjection_emptied input condition
  | _ => rfl

/-- So are set operations. -/
theorem planSet_emptied (op : Operator) (left right : Plan) :
    planSet op left.emptied right.emptied = (planSet op left right).map Plan.emptied := by
  unfold planSet
  rw [columnNames_emptied, columnNames_emptied]
  cases columnNames left with
  | error cause => split <;> rfl
  | ok leftNames =>
      cases columnNames right with
      | error cause => split <;> rfl
      | ok rightNames =>
          simp only [bind, Except.bind]
          split
          · split
            · cases op <;> rfl
            · rfl
          · rfl

/-- And so are joins. -/
theorem planJoin_emptied (op : Operator) (left right : Plan) :
    planJoin op left.emptied right.emptied = (planJoin op left right).map Plan.emptied := by
  cases op with
  | naturalJoin =>
      unfold planJoin
      rw [columnNames_emptied, columnNames_emptied]
      cases columnNames left with
      | error cause => rfl
      | ok leftNames =>
          cases columnNames right with
          | error cause => rfl
          | ok rightNames =>
              simp only [bind, Except.bind]
              split <;> rfl
  | _ => rfl

/-! ## Trees -/

/-- What is done with the plan of an operand commutes with leaving out the rows. -/
theorem bind_map_emptied {x : Except EvalError Plan} {f g : Plan → Except EvalError Plan}
    (h : ∀ plan, f plan.emptied = (g plan).map Plan.emptied) :
    (x.map Plan.emptied >>= f) = (x >>= g).map Plan.emptied := by
  cases x with
  | error cause => rfl
  | ok plan => exact h plan

/-- Emptying the relations of a catalog changes neither the plan of a tree nor why there is none. -/
theorem resolve_emptied (catalog : Catalog) (e : Expr) :
    resolve catalog.emptied e = (resolve catalog e).map Plan.emptied := by
  induction e with
  | relation name source =>
      unfold resolve
      rw [Catalog.get?_emptied]
      cases catalog.get? name with
      | none => rfl
      | some frame => rfl
  | unary op condition operand source ih =>
      unfold resolve
      rw [ih]
      exact bind_map_emptied fun input => planUnary_emptied op input condition
  | setOp op lhs rhs source ihl ihr =>
      unfold resolve
      rw [ihl, ihr]
      exact bind_map_emptied fun left => bind_map_emptied fun right => planSet_emptied op left right
  | join op lhs rhs source ihl ihr =>
      unfold resolve
      rw [ihl, ihr]
      exact bind_map_emptied fun left => bind_map_emptied fun right => planJoin_emptied op left right
  | conditionalJoin op condition lhs rhs source ihl ihr =>
      unfold resolve
      rw [ihl, ihr]
      refine bind_map_emptied fun left => bind_map_emptied fun right => ?_
      rw [planJoin_emptied]
      exact bind_map_emptied fun joined => planSelection_emptied joined condition

/-- Emptying the relations of a catalog changes neither the columns that a tree evaluates to nor why
it does not evaluate. -/
theorem evaluate_emptied (catalog : Catalog) (e : Expr) :
    (evaluate catalog.emptied e).map Frame.schema = (evaluate catalog e).map Frame.schema := by
  unfold evaluate
  rw [resolve_emptied]
  cases resolve catalog e with
  | error cause => rfl
  | ok plan =>
      show (plan.emptied.collect.mapError EvalError.fault).map Frame.schema =
        (plan.collect.mapError EvalError.fault).map Frame.schema
      have hmap (x : Except Plan.Fault Frame) : (x.mapError EvalError.fault).map Frame.schema =
          (x.map Frame.schema).mapError EvalError.fault := by
        cases x <;> rfl
      rw [hmap, hmap, Plan.collect_emptied]

/-- Only the relations in a tree are looked up for its plan. -/
theorem resolve_congr (h : ∀ name ∈ e.relationNames, catalog.get? name = other.get? name) :
    resolve catalog e = resolve other e := by
  induction e with
  | relation name source =>
      unfold resolve
      rw [h name (List.mem_singleton_self name)]
  | unary op condition operand source ih =>
      unfold resolve
      rw [ih h]
  | setOp op lhs rhs source ihl ihr =>
      obtain ⟨hl, hr⟩ := List.forall_mem_append.1 h
      unfold resolve
      rw [ihl hl, ihr hr]
  | join op lhs rhs source ihl ihr =>
      obtain ⟨hl, hr⟩ := List.forall_mem_append.1 h
      unfold resolve
      rw [ihl hl, ihr hr]
  | conditionalJoin op condition lhs rhs source ihl ihr =>
      obtain ⟨hl, hr⟩ := List.forall_mem_append.1 h
      unfold resolve
      rw [ihl hl, ihr hr]

/-- Evaluation does not look at rows, nor at relations that are not in the tree. If two catalogs
have the same columns under each name in a tree, or both have no relation of that name, then the
tree evaluates to the same columns in both, or fails in both with the same error. -/
theorem evaluate_schema_congr (catalog other : Catalog) (e : Expr)
    (h : ∀ name ∈ e.relationNames,
      (catalog.get? name).map Frame.schema = (other.get? name).map Frame.schema) :
    (∃ frame frame', evaluate catalog e = .ok frame ∧ evaluate other e = .ok frame' ∧
      frame.schema = frame'.schema) ∨
    ∃ cause, evaluate catalog e = .error cause ∧ evaluate other e = .error cause := by
  have hget : ∀ name ∈ e.relationNames, catalog.emptied.get? name = other.emptied.get? name := by
    intro name hname
    rw [Catalog.get?_emptied, Catalog.get?_emptied]
    exact Frame.map_emptied_eq_iff.2 (h name hname)
  have hcolumns : (evaluate catalog e).map Frame.schema = (evaluate other e).map Frame.schema :=
    calc (evaluate catalog e).map Frame.schema
        = (evaluate catalog.emptied e).map Frame.schema := (evaluate_emptied catalog e).symm
      _ = (evaluate other.emptied e).map Frame.schema := by
          unfold evaluate
          rw [resolve_congr hget]
      _ = (evaluate other e).map Frame.schema := evaluate_emptied other e
  cases hleft : evaluate catalog e with
  | error cause =>
      cases hright : evaluate other e with
      | error cause' =>
          rw [hleft, hright] at hcolumns
          cases hcolumns
          exact .inr ⟨cause, rfl, rfl⟩
      | ok frame =>
          rw [hleft, hright] at hcolumns
          cases hcolumns
  | ok frame =>
      cases hright : evaluate other e with
      | error cause =>
          rw [hleft, hright] at hcolumns
          cases hcolumns
      | ok frame' =>
          rw [hleft, hright] at hcolumns
          exact .inl ⟨frame, frame', rfl, rfl, Except.ok.inj hcolumns⟩

/-- Two catalogs with the same columns under two names but other rows, and a third relation in one
of them: a join of the two evaluates in both to the same columns, and their union fails in both. -/
theorem evaluate_schema_congr_rows :
    let catalog : Catalog := ⟨[(['R'], ⟨[⟨['A'], .int64⟩], [[.int 1], [.int 2]]⟩),
      (['S'], ⟨[⟨['B'], .text⟩], [[.text ['x']]]⟩)]⟩
    let other : Catalog := ⟨[(['S'], ⟨[⟨['B'], .text⟩], []⟩), (['T'], ⟨[], []⟩),
      (['R'], ⟨[⟨['A'], .int64⟩], [[.int 7]]⟩)]⟩
    let join : Expr := .conditionalJoin .thetaJoin "A > 1".toList (.named ['R']) (.named ['S']) []
    let union : Expr := .setOp .union (.named ['R']) (.named ['S']) []
    (∃ frame frame', evaluate catalog join = .ok frame ∧ evaluate other join = .ok frame' ∧
      frame.schema = frame'.schema) ∧
    ∃ cause, evaluate catalog union = .error cause ∧ evaluate other union = .error cause := by
  intro catalog other join union
  have hjoin : evaluate catalog join =
      .ok ⟨[⟨['A'], .int64⟩, ⟨['B'], .text⟩], [[.int 2, .text ['x']]]⟩ := by
    rfl
  have hunion : evaluate catalog union =
      .error (.incompatibleSchemas .union [['A']] [['B']]) := by
    rfl
  constructor
  · obtain hboth | ⟨cause, hcause, -⟩ := evaluate_schema_congr catalog other join (by decide)
    · exact hboth
    · rw [hjoin] at hcause
      cases hcause
  · obtain ⟨frame, -, hframe, -⟩ | hboth := evaluate_schema_congr catalog other union (by decide)
    · rw [hunion] at hframe
      cases hframe
    · exact hboth

end RelQuery
