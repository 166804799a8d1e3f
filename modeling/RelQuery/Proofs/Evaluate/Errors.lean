import RelQuery.Proofs.Evaluate.Resolve
import RelQuery.Proofs.Syntax.RoundTrip
import RelQuery.Proofs.Table.Catalog

/-!
# Why evaluation fails

Planning reports an error as soon as it meets one, and what the error tells is true: a relation that
is unknown stands in the tree and not in the catalog, and an operator is misplaced only in a tree
that is not well-formed (`resolve_error`). Reading lets neither through, so that a query that has
been read fails for its columns, its conditions or its values alone (`run_error_ofColumns`).
-/

namespace RelQuery

/-- Errors about the columns of operands, about conditions and about values. -/
inductive EvalError.OfColumns : EvalError → Prop where
  | unknownColumn (column context : Text) : OfColumns (.unknownColumn column context)
  | incompatibleSchemas (op : Operator) (lhs rhs : List Text) :
      OfColumns (.incompatibleSchemas op lhs rhs)
  | condition (error : Condition.ConditionError) : OfColumns (.condition error)
  | fault (fault : Plan.Fault) : OfColumns (.fault fault)

/-- What an error tells about the tree and the catalog. -/
def EvalError.Tells (catalog : Catalog) (e : Expr) : EvalError → Prop
  | unknownRelation name => name ∈ e.relationNames ∧ catalog.get? name = none
  | misplacedOperator _ _ => ¬ e.WellFormed
  | _ => True

variable {catalog : Catalog} {cause : EvalError} {e operand lhs rhs : Expr} {op : Operator}
variable {condition : Text} {input left right : Plan}

namespace EvalError

/-- Errors about columns tell nothing about the tree. -/
theorem OfColumns.tells (h : cause.OfColumns) : cause.Tells catalog e := by
  cases h <;> exact trivial

/-- What an error tells about an operand, it tells about the node. -/
theorem Tells.of_operand (h : cause.Tells catalog operand)
    (hnames : operand.relationNames ⊆ e.relationNames)
    (hwf : e.WellFormed → operand.WellFormed) : cause.Tells catalog e := by
  cases cause with
  | unknownRelation name => exact ⟨hnames h.1, h.2⟩
  | misplacedOperator op role => exact fun he => h (hwf he)
  | unknownColumn column context => exact trivial
  | incompatibleSchemas op lhs rhs => exact trivial
  | condition error => exact trivial
  | fault fault => exact trivial

/-- A well-formed tree over relations of the catalog leaves columns, conditions and values to be
wrong. -/
theorem Tells.ofColumns (h : cause.Tells catalog e) (hwf : e.WellFormed)
    (hknown : ∀ name ∈ e.relationNames, (catalog.get? name).isSome) : cause.OfColumns := by
  cases cause with
  | unknownRelation name =>
      have hsome := hknown name h.1
      rw [h.2] at hsome
      cases hsome
  | misplacedOperator op role => exact absurd hwf h
  | unknownColumn column context => exact .unknownColumn column context
  | incompatibleSchemas op lhs rhs => exact .incompatibleSchemas op lhs rhs
  | condition error => exact .condition error
  | fault fault => exact .fault fault

end EvalError

/-! ## Errors of one operator -/

/-- An error about the names of the columns is one about columns. -/
theorem columnNames_error (h : columnNames input = .error cause) : cause.OfColumns := by
  obtain ⟨fault, -, rfl⟩ := mapError_eq_error_iff.1 h
  exact .fault fault

/-- So is every error in planning a selection: it is about its columns or its condition. -/
theorem planSelection_error (h : planSelection input condition = .error cause) :
    cause.OfColumns := by
  unfold planSelection at h
  simp only [bind_eq_error_iff, mapError_eq_error_iff] at h
  obtain hcolumns | ⟨_, -, hcondition | ⟨predicate, -, hplan⟩⟩ := h
  · exact columnNames_error hcolumns
  · obtain ⟨error, -, rfl⟩ := hcondition
    exact .condition error
  · cases hplan

/-- And every one in planning a projection. -/
theorem planProjection_error (h : planProjection input condition = .error cause) :
    cause.OfColumns := by
  unfold planProjection at h
  simp only [bind_eq_error_iff, mapError_eq_error_iff] at h
  obtain hcolumns | ⟨_, -, hcondition | ⟨names, -, hplan⟩⟩ := h
  · exact columnNames_error hcolumns
  · obtain ⟨error, -, rfl⟩ := hcondition
    exact .condition error
  · split at hplan
    · cases hplan
      exact .unknownColumn _ _
    · cases hplan

/-- A unary operator fails for its operand's columns or its condition, or is none. -/
theorem planUnary_error (h : planUnary op input condition = .error cause) :
    cause.OfColumns ∨ cause = .misplacedOperator op .unary ∧ op.category ≠ .unary := by
  cases op with
  | select => exact .inl (planSelection_error h)
  | project => exact .inl (planProjection_error h)
  | _ =>
      cases h
      exact .inr ⟨rfl, nofun⟩

/-- A set operator fails for the columns of its operands, or is none. -/
theorem planSet_error (h : planSet op left right = .error cause) :
    cause.OfColumns ∨ cause = .misplacedOperator op .set ∧ op.category ≠ .set := by
  unfold planSet at h
  split at h
  · rename_i hop
    simp only [bind_eq_error_iff] at h
    obtain hleft | ⟨_, -, hright | ⟨_, -, hplan⟩⟩ := h
    · exact .inl (columnNames_error hleft)
    · exact .inl (columnNames_error hright)
    · split at hplan
      · -- Every operator of the category has a plan.
        cases op <;> cases hop <;> cases hplan
      · cases hplan
        exact .inl (.incompatibleSchemas _ _ _)
  · rename_i hop
    cases h
    exact .inr ⟨rfl, hop⟩

/-- A join fails for the columns of its operands, or is none. -/
theorem planJoin_error (h : planJoin op left right = .error cause) :
    cause.OfColumns ∨ cause = .misplacedOperator op .join ∧ op.category ≠ .join := by
  cases op with
  | naturalJoin =>
      unfold planJoin at h
      simp only [bind_eq_error_iff] at h
      obtain hleft | ⟨_, -, hright | ⟨_, -, hplan⟩⟩ := h
      · exact .inl (columnNames_error hleft)
      · exact .inl (columnNames_error hright)
      · split at hplan <;> cases hplan
  | cartesian => cases h
  | thetaJoin => cases h
  | _ =>
      cases h
      exact .inr ⟨rfl, nofun⟩

/-- The error of an operator tells about its node what is true, if the operator of a well-formed
node is in its place. -/
theorem EvalError.tells_of_operator {role : Category}
    (h : cause.OfColumns ∨ cause = .misplacedOperator op role ∧ op.category ≠ role)
    (hwf : e.WellFormed → op.category = role) : cause.Tells catalog e := by
  obtain hcolumns | ⟨rfl, hop⟩ := h
  · exact hcolumns.tells
  · exact fun he => hop (hwf he)

/-! ## Errors of a tree -/

/-- Two operands fail for the left one or for the right one, or else for what is done with their
plans. -/
theorem resolve_operands_error {f : Plan → Plan → Except EvalError Plan}
    (h : (do f (← resolve catalog lhs) (← resolve catalog rhs)) = .error cause) :
    resolve catalog lhs = .error cause ∨ resolve catalog rhs = .error cause ∨
      ∃ left right, f left right = .error cause := by
  simp only [bind_eq_error_iff] at h
  obtain hleft | ⟨left, -, hright | ⟨right, -, hplan⟩⟩ := h
  · exact .inl hleft
  · exact .inr (.inl hright)
  · exact .inr (.inr ⟨left, right, hplan⟩)

/-- What an error of planning tells is true, in any tree and with any catalog. -/
theorem resolve_error (h : resolve catalog e = .error cause) : cause.Tells catalog e := by
  induction e generalizing cause with
  | relation name source =>
      unfold resolve at h
      split at h
      · cases h
      · rename_i hget
        cases h
        exact ⟨List.mem_singleton_self name, hget⟩
  | unary op condition operand source ih =>
      unfold resolve at h
      obtain hinput | ⟨input, -, hplan⟩ := bind_eq_error_iff.1 h
      · exact (ih hinput).of_operand (fun _ hmem => hmem) fun he => he.2
      · exact EvalError.tells_of_operator (planUnary_error hplan) fun he => he.1
  | setOp op lhs rhs source ihl ihr =>
      obtain hleft | hright | ⟨left, right, hplan⟩ := resolve_operands_error h
      · exact (ihl hleft).of_operand (List.subset_append_left _ _) fun he => he.2.1
      · exact (ihr hright).of_operand (List.subset_append_right _ _) fun he => he.2.2
      · exact EvalError.tells_of_operator (planSet_error hplan) fun he => he.1
  | join op lhs rhs source ihl ihr =>
      obtain hleft | hright | ⟨left, right, hplan⟩ := resolve_operands_error h
      · exact (ihl hleft).of_operand (List.subset_append_left _ _) fun he => he.2.1
      · exact (ihr hright).of_operand (List.subset_append_right _ _) fun he => he.2.2
      · exact EvalError.tells_of_operator (planJoin_error hplan) fun he => he.1
  | conditionalJoin op condition lhs rhs source ihl ihr =>
      obtain hleft | hright | ⟨left, right, hplan⟩ := resolve_operands_error
        (f := fun left right => do planSelection (← planJoin op left right) condition) h
      · exact (ihl hleft).of_operand (List.subset_append_left _ _) fun he => he.2.1
      · exact (ihr hright).of_operand (List.subset_append_right _ _) fun he => he.2.2
      · obtain hjoin | ⟨joined, -, hselection⟩ := bind_eq_error_iff.1 hplan
        · exact EvalError.tells_of_operator (planJoin_error hjoin) fun he => he.1
        · exact (planSelection_error hselection).tells

/-- Carrying out a plan adds no error about the tree. -/
theorem evaluate_error (h : evaluate catalog e = .error cause) : cause.Tells catalog e := by
  unfold evaluate at h
  obtain hplan | ⟨plan, -, hcollect⟩ := bind_eq_error_iff.1 h
  · exact resolve_error hplan
  · obtain ⟨fault, -, rfl⟩ := mapError_eq_error_iff.1 hcollect
    exact trivial

/-! ## Errors of a query -/

/-- The relations of a query that has been read are in the catalog. -/
theorem get?_isSome_of_readQuery {query : Text}
    (h : Syntax.readQuery catalog.settings query = .ok e) :
    ∀ name ∈ e.relationNames, (catalog.get? name).isSome := by
  intro name hname
  have hallowed := (Syntax.fits_of_read h).allowed name hname
  exact Catalog.contains_iff_isSome_get?.1 hallowed

/-- A query that has been read has neither an unknown relation nor a misplaced operator in it: it
fails only for an unknown column, for columns that do not go together, for a condition, or for a
fault of its plan. -/
theorem run_error_ofColumns (catalog : Catalog) (query : Text) (cause : EvalError)
    (h : run catalog query = .error (.eval cause)) :
    (∀ name, cause ≠ .unknownRelation name) ∧ (∀ op role, cause ≠ .misplacedOperator op role) ∧
      ((∃ column context, cause = .unknownColumn column context) ∨
        (∃ op lhs rhs, cause = .incompatibleSchemas op lhs rhs) ∨
        (∃ error, cause = .condition error) ∨ ∃ fault, cause = .fault fault) := by
  obtain ⟨n, hread, hcause⟩ := run_eq_eval_iff.1 h
  have hwf : n.WellFormed := (Syntax.fits_of_read hread).printable.wellFormed
  have hcolumns := (evaluate_error hcause).ofColumns hwf (get?_isSome_of_readQuery hread)
  cases hcolumns with
  | unknownColumn column context => exact ⟨nofun, nofun, .inl ⟨column, context, rfl⟩⟩
  | incompatibleSchemas op lhs rhs => exact ⟨nofun, nofun, .inr (.inl ⟨op, lhs, rhs, rfl⟩)⟩
  | condition error => exact ⟨nofun, nofun, .inr (.inr (.inl ⟨error, rfl⟩))⟩
  | fault fault => exact ⟨nofun, nofun, .inr (.inr (.inr ⟨fault, rfl⟩))⟩

/-- Two queries that are read and fail: one projects on a column that is not there, and one repeats a
column in a product. -/
theorem run_error_ofColumns_projection_product :
    let catalog : Catalog := ⟨[(['R'], ⟨[⟨['A'], .int64⟩], [[.int 1]]⟩),
      (['S'], ⟨[⟨['B'], .int64⟩], [[.int 2]]⟩)]⟩
    let missing : EvalError := .unknownColumn ['B'] "projection {B}".toList
    let repeated : EvalError := .fault .repeatedColumn
    (run catalog "project_{B} R union S".toList = .error (.eval missing) ∧
      (∀ name, missing ≠ .unknownRelation name) ∧
      ∀ op role, missing ≠ .misplacedOperator op role) ∧
    run catalog "(R cross_ R) cross_ R".toList = .error (.eval repeated) ∧
      (∀ name, repeated ≠ .unknownRelation name) ∧
      ∀ op role, repeated ≠ .misplacedOperator op role := by
  intro catalog missing repeated
  have hmissing : run catalog "project_{B} R union S".toList = .error (.eval missing) := by
    rfl
  have hrepeated : run catalog "(R cross_ R) cross_ R".toList = .error (.eval repeated) := by
    rfl
  obtain ⟨hrelation, hoperator, -⟩ := run_error_ofColumns catalog _ _ hmissing
  obtain ⟨hrelation', hoperator', -⟩ := run_error_ofColumns catalog _ _ hrepeated
  exact ⟨⟨hmissing, hrelation, hoperator⟩, hrepeated, hrelation', hoperator'⟩

end RelQuery
