import RelQuery.Proofs.Expr.Nodes

/-!
# Trees that differ in a condition

`DiffersAtMostAt` relates two trees of one shape whose conditions are the same but for at most one.
Without that one the trees are the same but for sources (`erase_eq_iff`). Nodes that are assembled
from parts of the same shape have the same shape (`assemble_alike`).
-/

namespace RelQuery

/-- The texts are the same but for at most one, which is `c` in the first list and `c'` in the
second. -/
def OneChange (c c' : Text) (first second : List Text) : Prop :=
  second = first ∨ ∃ before after, first = before ++ c :: after ∧ second = before ++ c' :: after

/-- Sources apart, the trees differ at most in the condition of one node, which is `c` in the first
tree and `c'` in the second. -/
structure Expr.DiffersAtMostAt (c c' : Text) (e e' : Expr) : Prop where
  shape_eq : e'.shape = e.shape
  conditions : OneChange c c' e.conditions e'.conditions

namespace OneChange

variable {c c' : Text} {first second more other : List Text}

/-- Texts that are the same differ in none. -/
theorem refl (first : List Text) : OneChange c c' first first :=
  .inl rfl

/-- The same texts in front add no difference. -/
theorem append_left (h : OneChange c c' first second) (more : List Text) :
    OneChange c c' (more ++ first) (more ++ second) := by
  rcases h with rfl | ⟨before, after, rfl, rfl⟩
  · exact .inl rfl
  · exact .inr ⟨more ++ before, after, by simp, by simp⟩

/-- Neither do the same texts behind. -/
theorem append_right (h : OneChange c c' first second) (more : List Text) :
    OneChange c c' (first ++ more) (second ++ more) := by
  rcases h with rfl | ⟨before, after, rfl, rfl⟩
  · exact .inl rfl
  · exact .inr ⟨before, after ++ more, by simp, by simp⟩

/-- A text changed into itself is no change. -/
theorem eq_of_self (h : OneChange c c first second) : second = first := by
  rcases h with rfl | ⟨before, after, rfl, rfl⟩
  · rfl
  · rfl

/-- What follows equally many texts differs in at most one. -/
theorem of_append (h : OneChange c c' (more ++ first) (other ++ second))
    (hlength : other.length = more.length) : OneChange c c' first second := by
  have hfirst : first = (more ++ first).drop more.length := List.drop_left.symm
  have hsecond : second = (other ++ second).drop more.length := by rw [← hlength, List.drop_left]
  rw [hfirst, hsecond]
  rcases h with heq | ⟨before, after, hbefore, hafter⟩
  · rw [heq]
    exact .refl _
  · rw [hbefore, hafter]
    -- The change is among the texts that are left or among those that were dropped.
    by_cases hle : more.length ≤ before.length
    · rw [List.drop_append_of_le_length hle, List.drop_append_of_le_length hle]
      exact .inr ⟨_, after, rfl, rfl⟩
    · obtain ⟨k, hk⟩ := Nat.exists_eq_add_of_lt (Nat.not_le.1 hle)
      have hbehind (d : Text) : (before ++ d :: after).drop more.length = after.drop k := by
        rw [hk, Nat.add_assoc, List.drop_append, List.drop_eq_nil_of_le (Nat.le_add_right _ _)]
        simp
      rw [hbehind, hbehind]
      exact .refl _

end OneChange

namespace Expr

variable {c c' : Text} {e e' lhs rhs operand node : Expr} {op : Operator} {given : Option Text}
variable {source : Text}

/-- A binary node stays one without sources. -/
theorem BinaryNode.erase (h : BinaryNode op lhs rhs given e) :
    BinaryNode op lhs.erase rhs.erase given e.erase := by
  cases h with
  | setOp source => exact .setOp []
  | join source => exact .join []
  | conditionalJoin condition source => exact .conditionalJoin condition []

/-- And without what its conditions say. -/
theorem BinaryNode.shape (h : BinaryNode op lhs rhs given e) :
    BinaryNode op lhs.shape rhs.shape (given.map fun _ => []) e.shape := by
  cases h with
  | setOp source => exact .setOp []
  | join source => exact .join []
  | conditionalJoin condition source => exact .conditionalJoin [] []

/-- Conditions are no sources. -/
theorem conditions_erase (e : Expr) : e.erase.conditions = e.conditions := by
  induction e using nodeInduction with
  | relation name source => rfl
  | unary op condition operand source ih => rw [erase, conditions_unary, conditions_unary, ih]
  | binary op given lhs rhs e hnode ihl ihr =>
      rw [hnode.erase.conditions_eq, hnode.conditions_eq, ihl, ihr]

/-- Without sources a tree has the same shape. -/
theorem shape_erase (e : Expr) : e.erase.shape = e.shape := by
  induction e with
  | relation name source => rfl
  | setOp op lhs rhs source ihl ihr => rw [erase, shape, ihl, ihr, shape]
  | unary op condition operand source ih => rw [erase, shape, ih, shape]
  | join op lhs rhs source ihl ihr => rw [erase, shape, ihl, ihr, shape]
  | conditionalJoin op condition lhs rhs source ihl ihr => rw [erase, shape, ihl, ihr, shape]

/-- The shape tells how many conditions there are. -/
theorem length_conditions_shape (e : Expr) : e.shape.conditions.length = e.conditions.length := by
  induction e using nodeInduction with
  | relation name source => rfl
  | unary op condition operand source ih => simp [shape, ih]
  | binary op given lhs rhs e hnode ihl ihr =>
      rw [hnode.shape.conditions_eq, hnode.conditions_eq]
      cases given <;> simp [ihl, ihr]

/-- Trees of one shape have as many conditions. -/
theorem length_conditions_of_shape_eq (h : e'.shape = e.shape) :
    e'.conditions.length = e.conditions.length := by
  rw [← length_conditions_shape e', h, length_conditions_shape]

/-- A tree with the shape of a binary node is a binary node of the same kind. -/
theorem BinaryNode.exists_of_shape_eq (h : BinaryNode op lhs rhs given e)
    (he : e'.shape = e.shape) :
    ∃ lhs' rhs' given', BinaryNode op lhs' rhs' given' e' ∧ lhs'.shape = lhs.shape ∧
      rhs'.shape = rhs.shape ∧ given'.toList.length = given.toList.length ∧
      (lhs'.erase = lhs.erase → rhs'.erase = rhs.erase → given' = given → e'.erase = e.erase) := by
  cases h with
  | setOp source =>
      cases e' with
      | setOp op' lhs' rhs' source' =>
          simp only [Expr.shape, setOp.injEq] at he
          obtain ⟨rfl, hl, hr, -⟩ := he
          refine ⟨lhs', rhs', none, .setOp source', hl, hr, rfl, fun hl hr _ => ?_⟩
          rw [Expr.erase, hl, hr, Expr.erase]
      | _ => cases he
  | join source =>
      cases e' with
      | join op' lhs' rhs' source' =>
          simp only [Expr.shape, join.injEq] at he
          obtain ⟨rfl, hl, hr, -⟩ := he
          refine ⟨lhs', rhs', none, .join source', hl, hr, rfl, fun hl hr _ => ?_⟩
          rw [Expr.erase, hl, hr, Expr.erase]
      | _ => cases he
  | conditionalJoin condition source =>
      cases e' with
      | conditionalJoin op' condition' lhs' rhs' source' =>
          simp only [Expr.shape, conditionalJoin.injEq] at he
          obtain ⟨rfl, -, hl, hr, -⟩ := he
          refine ⟨lhs', rhs', _, .conditionalJoin condition' source', hl, hr, rfl, ?_⟩
          intro hl hr hc
          cases hc
          rw [Expr.erase, hl, hr, Expr.erase]
      | _ => cases he

/-- A tree is given by its shape and its conditions, sources apart. -/
theorem erase_eq_iff : e'.erase = e.erase ↔ e'.shape = e.shape ∧ e'.conditions = e.conditions := by
  constructor
  · intro h
    rw [← shape_erase e', ← conditions_erase e', h]
    exact ⟨shape_erase e, conditions_erase e⟩
  · rintro ⟨hshape, hconditions⟩
    induction e using nodeInduction generalizing e' with
    | relation name source =>
        cases e' with
        | relation name' source' => exact hshape
        | _ => cases hshape
    | unary op condition operand source ih =>
        cases e' with
        | unary op' condition' operand' source' =>
            simp only [shape, unary.injEq] at hshape
            obtain ⟨rfl, -, hoperand, -⟩ := hshape
            rw [conditions_unary, conditions_unary, List.cons.injEq] at hconditions
            rw [erase, hconditions.1, ih hoperand hconditions.2, erase]
        | _ => cases hshape
    | binary op given lhs rhs e hnode ihl ihr =>
        obtain ⟨lhs', rhs', given', hnode', hl, hr, hlength, herase⟩ :=
          hnode.exists_of_shape_eq hshape
        rw [hnode'.conditions_eq, hnode.conditions_eq] at hconditions
        -- As the shapes agree, the conditions of each part are as many in both lists.
        obtain ⟨hgiven, hoperands⟩ := List.append_inj hconditions hlength
        obtain ⟨hcl, hcr⟩ := List.append_inj hoperands (length_conditions_of_shape_eq hl)
        have hmem (c : Text) : given' = some c ↔ given = some c := by
          rw [← Option.mem_toList, hgiven, Option.mem_toList]
        exact herase (ihl hl hcl) (ihr hr hcr) (Option.ext hmem)

/-- Trees that differ at most in a condition that they share are the same, sources apart. -/
theorem differsAtMostAt_self_iff {c : Text} : e.DiffersAtMostAt c c e' ↔ e'.erase = e.erase := by
  rw [erase_eq_iff]
  constructor
  · intro h
    exact ⟨h.shape_eq, h.conditions.eq_of_self⟩
  · intro h
    exact ⟨h.1, .inl h.2⟩

/-- Operands of the same shape make a unary node of the same shape. -/
theorem assemble_unary_alike {operand' : Expr} {given' : Option Text} (hop : op.category = .unary)
    (h : assemble op (some operand) none given source = .ok node)
    (hoperand : operand'.shape = operand.shape)
    (hgiven : (presentCondition given').isSome = (presentCondition given).isSome) (source' : Text) :
    ∃ node', assemble op (some operand') none given' source' = .ok node' ∧
      node'.shape = node.shape := by
  obtain ⟨condition, hcondition, rfl⟩ := assemble_unary hop h
  rw [hcondition] at hgiven
  obtain ⟨condition', hcondition'⟩ := Option.isSome_iff_exists.1 hgiven
  refine ⟨.unary op condition' operand' source', by simp [assemble, hop, hcondition'], ?_⟩
  rw [shape, hoperand, shape]

/-- Operands of the same shape make a binary node of the same shape. -/
theorem assemble_binary_alike {lhs' rhs' : Expr} {given' : Option Text} (hop : op.category ≠ .unary)
    (h : assemble op (some lhs) (some rhs) given source = .ok node)
    (hlhs : lhs'.shape = lhs.shape) (hrhs : rhs'.shape = rhs.shape)
    (hgiven : (presentCondition given').isSome = (presentCondition given).isSome) (source' : Text) :
    ∃ node', assemble op (some lhs') (some rhs') given' source' = .ok node' ∧
      node'.shape = node.shape := by
  cases hcategory : op.category with
  | unary => exact absurd hcategory hop
  | set =>
      cases hcondition : presentCondition given with
      | some condition => simp [assemble, hcategory, hcondition] at h
      | none =>
          have hnone : presentCondition given' = none := by simpa [hcondition] using hgiven
          simp only [assemble, hcategory, hcondition, hnone] at h ⊢
          cases h
          exact ⟨_, rfl, by rw [shape, hlhs, hrhs, shape]⟩
  | join =>
      cases hcondition : presentCondition given with
      | some condition =>
          rw [hcondition] at hgiven
          obtain ⟨condition', hcondition'⟩ := Option.isSome_iff_exists.1 hgiven
          simp only [assemble, hcategory, hcondition, hcondition'] at h ⊢
          cases h
          exact ⟨_, rfl, by rw [shape, hlhs, hrhs, shape]⟩
      | none =>
          have hnone : presentCondition given' = none := by simpa [hcondition] using hgiven
          simp only [assemble, hcategory, hcondition, hnone] at h ⊢
          cases h
          exact ⟨_, rfl, by rw [shape, hlhs, hrhs, shape]⟩

end Expr

end RelQuery
