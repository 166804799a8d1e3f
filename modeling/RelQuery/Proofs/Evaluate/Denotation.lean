import RelQuery.Proofs.Condition.Attributes
import RelQuery.Proofs.Evaluate.Shows
import RelQuery.Proofs.Table.Catalog

/-!
# What expressions denote

An expression denotes a relation, by recursion on the expression: the relation of a frame at a
leaf, and elsewhere what the operator makes of the relations that the operands denote. Where the
catalog is clean, evaluation computes it: the rows of the result are the tuples of the relation,
each of them once (`evaluate_eq_denotation`). It does so unless a projection lists an attribute that
is a wildcard, which stands for other columns than the one of that name.
-/

namespace RelQuery

/-- The relation that an expression denotes, if its operators fit and its conditions can be read. -/
def Expr.denotation (catalog : Catalog) : Expr → Option Relation
  | .relation name _ => (catalog.get? name).map Frame.relation
  | .unary op condition operand _ => do
      Relation.unary? op condition (← operand.denotation catalog)
  | .setOp op lhs rhs _ => do
      Relation.setOp? op (← lhs.denotation catalog) (← rhs.denotation catalog)
  | .join op lhs rhs _ => do
      Relation.join? op (← lhs.denotation catalog) (← rhs.denotation catalog)
  | .conditionalJoin op condition lhs rhs _ => do
      Relation.unary? .select condition
        (← Relation.join? op (← lhs.denotation catalog) (← rhs.denotation catalog))

/-- No projection in the expression lists a wildcard. -/
def Expr.ProjectsByName : Expr → Prop
  | .relation _ _ => True
  | .unary op condition operand _ =>
      (op = .project → ∀ names, Condition.readAttributes condition = .ok names →
        ∀ name ∈ names, Schema.isWildcard name = false) ∧ operand.ProjectsByName
  | .setOp _ lhs rhs _ => lhs.ProjectsByName ∧ rhs.ProjectsByName
  | .join _ lhs rhs _ => lhs.ProjectsByName ∧ rhs.ProjectsByName
  | .conditionalJoin _ _ lhs rhs _ => lhs.ProjectsByName ∧ rhs.ProjectsByName

/-- Every relation of the catalog is clean. -/
def Catalog.Clean (catalog : Catalog) : Prop :=
  ∀ name frame, catalog.get? name = some frame → frame.Clean

variable {catalog : Catalog} {e : Expr} {plan input : Plan} {r s : Relation} {op : Operator}
variable {condition : Text} {frame : Frame}

/-- The plan for a selection shows the selection. -/
theorem planSelection_shows (hinput : input.Shows r)
    (h : planSelection input condition = .ok plan) :
    ∃ t, Relation.unary? .select condition r = some t ∧ plan.Shows t := by
  obtain ⟨schema, predicate, -, hpredicate, rfl⟩ := planSelection_eq_ok_iff.1 h
  refine ⟨r.select predicate, ?_, hinput.filter predicate⟩
  rw [Relation.unary?, hpredicate]
  rfl

/-- The plans for unary operators show what these mean, if no wildcard is projected to. -/
theorem planUnary_shows (hinput : input.Shows r) (h : planUnary op input condition = .ok plan)
    (hnames : op = .project → ∀ names, Condition.readAttributes condition = .ok names →
      ∀ name ∈ names, Schema.isWildcard name = false) :
    ∃ t, Relation.unary? op condition r = some t ∧ plan.Shows t := by
  unfold planUnary at h
  split at h
  · exact planSelection_shows hinput h
  · obtain ⟨schema, names, hschema, hread, hmem, rfl⟩ := planProjection_eq_ok_iff.1 h
    refine ⟨r.project names, ?_, hinput.project hschema
      (Condition.readAttributes_ne_nil hread) hmem (hnames rfl names hread)⟩
    rw [Relation.unary?, hread]
    rfl
  · cases h

/-- The plans for set operators show what these mean. -/
theorem planSet_shows {left right : Plan} (hl : left.Shows r) (hr : right.Shows s)
    (h : planSet op left right = .ok plan) :
    ∃ t, Relation.setOp? op r s = some t ∧ plan.Shows t := by
  obtain ⟨leftSchema, rightSchema, hleft, hright, hsame, hplan⟩ := planSet_eq_ok h
  exact hl.setPlan hr hleft hright hsame hplan

/-- A plan for an expression shows the relation that the expression denotes. -/
theorem resolve_shows (hcatalog : catalog.Clean) (hnames : e.ProjectsByName)
    (h : resolve catalog e = .ok plan) : ∃ r, e.denotation catalog = some r ∧ plan.Shows r := by
  induction e generalizing plan with
  | relation name source =>
      obtain ⟨frame, hframe, rfl⟩ := resolve_relation_eq_ok_iff.1 h
      refine ⟨frame.relation, ?_, Plan.shows_scan (hcatalog name frame hframe)⟩
      rw [Expr.denotation, hframe, Option.map_some]
  | unary op condition operand source ih =>
      obtain ⟨input, hinput, hplan⟩ := resolve_unary_eq_ok_iff.1 h
      obtain ⟨r, hr, hshows⟩ := ih hnames.2 hinput
      obtain ⟨t, ht, hplan⟩ := planUnary_shows hshows hplan hnames.1
      exact ⟨t, by simp [Expr.denotation, hr, ht], hplan⟩
  | setOp op lhs rhs source ihl ihr =>
      obtain ⟨left, hleft, right, hright, hplan⟩ := resolve_setOp_eq_ok_iff.1 h
      obtain ⟨r, hr, hl⟩ := ihl hnames.1 hleft
      obtain ⟨s, hs, hr'⟩ := ihr hnames.2 hright
      obtain ⟨t, ht, hplan⟩ := planSet_shows hl hr' hplan
      exact ⟨t, by simp [Expr.denotation, hr, hs, ht], hplan⟩
  | join op lhs rhs source ihl ihr =>
      obtain ⟨left, hleft, right, hright, hplan⟩ := resolve_join_eq_ok_iff.1 h
      obtain ⟨r, hr, hl⟩ := ihl hnames.1 hleft
      obtain ⟨s, hs, hr'⟩ := ihr hnames.2 hright
      obtain ⟨t, ht, hplan⟩ := hl.joinPlan hr' (planJoin_eq_ok hplan)
      exact ⟨t, by simp [Expr.denotation, hr, hs, ht], hplan⟩
  | conditionalJoin op condition lhs rhs source ihl ihr =>
      obtain ⟨left, hleft, right, hright, joined, hjoin, hplan⟩ :=
        resolve_conditionalJoin_eq_ok_iff.1 h
      obtain ⟨r, hr, hl⟩ := ihl hnames.1 hleft
      obtain ⟨s, hs, hr'⟩ := ihr hnames.2 hright
      obtain ⟨t, ht, hjoined⟩ := hl.joinPlan hr' (planJoin_eq_ok hjoin)
      obtain ⟨u, hu, hplan⟩ := planSelection_shows hjoined hplan
      exact ⟨u, by simp [Expr.denotation, hr, hs, ht, hu], hplan⟩

/-- Over a clean catalog an expression whose projections list no wildcards is evaluated to the
relation that it denotes: no row is repeated, and the rows are those that show a tuple of the
relation. -/
theorem evaluate_eq_denotation (hcatalog : catalog.Clean) (hnames : e.ProjectsByName)
    (h : evaluate catalog e = .ok frame) :
    frame.rows.Nodup ∧ ∃ r, e.denotation catalog = some r ∧ frame.schema.names = r.columns ∧
      ∀ row, row ∈ frame.rows ↔
        row.length = frame.schema.length ∧ row.cell frame.schema ∈ r.tuples := by
  obtain ⟨plan, schema, hplan, hschema, hcomparable, rfl⟩ := evaluate_eq_ok_iff.1 h
  obtain ⟨r, hr, hshows⟩ := resolve_shows hcatalog hnames hplan
  obtain ⟨hclean, rfl⟩ := hshows schema hschema hcomparable
  exact ⟨hclean.rows_nodup, _, hr, rfl, fun row => hclean.mem_rows_iff⟩

/-- A catalog is clean if all that is in it is. -/
theorem Catalog.clean_of_entries (h : ∀ entry ∈ catalog.entries, entry.2.Clean) :
    catalog.Clean :=
  fun _ _ => forall_of_get? h

/-- A projection and a selection of a natural join. -/
theorem evaluate_eq_denotation_join :
    let catalog : Catalog := ⟨[
      (['R'], ⟨[⟨['A'], .int64⟩, ⟨['B'], .text⟩],
        [[.int 1, .text ['x']], [.int 2, .text ['y']]]⟩),
      (['S'], ⟨[⟨['B'], .text⟩, ⟨['C'], .boolean⟩],
        [[.text ['x'], .truth true], [.text ['y'], .truth false]]⟩)]⟩
    let e : Expr := .unary .project "A".toList (.unary .select "C = true".toList
      (.join .naturalJoin (.named ['R']) (.named ['S']) []) []) []
    let frame : Frame := ⟨[⟨['A'], .int64⟩], [[.int 1]]⟩
    evaluate catalog e = .ok frame ∧ frame.rows.Nodup ∧
      ∃ r, e.denotation catalog = some r ∧ frame.schema.names = r.columns ∧
        ∀ row, row ∈ frame.rows ↔
          row.length = frame.schema.length ∧ row.cell frame.schema ∈ r.tuples := by
  intro catalog e frame
  have hcatalog : catalog.Clean := by
    refine Catalog.clean_of_entries (List.forall_mem_cons.2 ⟨?_, List.forall_mem_singleton.2 ?_⟩)
    · exact ⟨⟨by decide, by decide, by simp [Row.Typed, Dtype.Holds], by simp⟩, by decide⟩
    · exact ⟨⟨by decide, by decide, by simp [Row.Typed, Dtype.Holds], by simp⟩, by decide⟩
  have hnames : e.ProjectsByName := by
    refine ⟨fun _ names hread => ?_, by simp, trivial, trivial⟩
    have hattributes : Condition.readAttributes "A".toList = .ok [['A']] := by rfl
    cases hattributes.symm.trans hread
    decide
  have hframe : evaluate catalog e = .ok frame := by rfl
  exact ⟨hframe, evaluate_eq_denotation hcatalog hnames hframe⟩

/-- A projection to a column with the name of a wildcard shows other columns, also where columns
of the same name hold values of the same type. -/
theorem not_evaluate_eq_denotation : ¬ ∀ catalog e frame, Catalog.Clean catalog →
    (∀ table ∈ catalog.entries, ∀ other ∈ catalog.entries, ∀ column ∈ table.2.schema,
      ∀ same ∈ other.2.schema, same.name = column.name → same.dtype = column.dtype) →
    evaluate catalog e = .ok frame →
    frame.rows.Nodup ∧ ∃ r, e.denotation catalog = some r ∧
      ∀ row, row ∈ frame.rows ↔
        row.length = frame.schema.length ∧ row.cell frame.schema ∈ r.tuples := by
  intro h
  let catalog : Catalog := ⟨[(['R'], ⟨[⟨"^A$".toList, .int64⟩, ⟨['A'], .int64⟩],
    [[.int 1, .int 3], [.int 2, .int 4]]⟩)]⟩
  let e : Expr := .unary .project "^A$".toList (.named ['R']) []
  let frame : Frame := ⟨[⟨['A'], .int64⟩], [[.int 3], [.int 4]]⟩
  have hcatalog : catalog.Clean := by
    refine Catalog.clean_of_entries (List.forall_mem_singleton.2 ?_)
    exact ⟨⟨by decide, by decide, by simp [Row.Typed, Dtype.Holds], by simp⟩, by decide⟩
  have hframe : evaluate catalog e = .ok frame := by rfl
  obtain ⟨-, r, hr, hrows⟩ := h catalog e frame hcatalog (by decide) hframe
  obtain ⟨-, t, -, ht⟩ : [Cell.int 3].length = frame.schema.length ∧
      Row.cell [.int 3] frame.schema ∈ (Relation.project _ ["^A$".toList]).tuples := by
    have hdenotation : e.denotation catalog = some (Relation.project _ ["^A$".toList]) := rfl
    cases hdenotation.symm.trans hr
    exact (hrows [.int 3]).1 (by decide)
  -- The tuples of the projection have no value under the name of the other column.
  have hmissing : Tuple.restrict ["^A$".toList] t ['A'] = .missing := if_neg (by decide)
  rw [ht] at hmissing
  cases hmissing

end RelQuery
