import RelQuery.Operator

/-!
# Expressions

The tree of a relational algebra expression. Every node carries the text that it was read from, so
that it can be shown back; two trees mean the same if they agree once these texts are erased.
`Expr.assemble` builds a composite node from the parts that a reader collected and says which part
is missing or out of place.
-/

namespace RelQuery

/-- An expression. The constructors say what kind of node it is; the operator is kept beside the
kind, and `Expr.WellFormed` says that its category fits. -/
inductive Expr where
  /-- A relation, by name. -/
  | relation (name : Text) (source : Text)
  /-- Two operands over the same columns. -/
  | setOp (op : Operator) (lhs rhs : Expr) (source : Text)
  /-- One operand under a condition. -/
  | unary (op : Operator) (condition : Text) (operand : Expr) (source : Text)
  /-- Two operands joined without a condition. -/
  | join (op : Operator) (lhs rhs : Expr) (source : Text)
  /-- Two operands joined under a condition. -/
  | conditionalJoin (op : Operator) (condition : Text) (lhs rhs : Expr) (source : Text)
  deriving DecidableEq, Repr, Inhabited

namespace Expr

/-- The relation of that name, read from the name. -/
def named (name : Text) : Expr :=
  relation name name

/-- The text that the node was read from. -/
def source : Expr → Text
  | relation _ source => source
  | setOp _ _ _ source => source
  | unary _ _ _ source => source
  | join _ _ _ source => source
  | conditionalJoin _ _ _ _ source => source

/-- The same node, read from another text. -/
def withSource (source : Text) : Expr → Expr
  | relation name _ => relation name source
  | setOp op lhs rhs _ => setOp op lhs rhs source
  | unary op condition operand _ => unary op condition operand source
  | join op lhs rhs _ => join op lhs rhs source
  | conditionalJoin op condition lhs rhs _ => conditionalJoin op condition lhs rhs source

/-- The tree alone, with no text at any node. -/
def erase : Expr → Expr
  | relation name _ => relation name []
  | setOp op lhs rhs _ => setOp op lhs.erase rhs.erase []
  | unary op condition operand _ => unary op condition operand.erase []
  | join op lhs rhs _ => join op lhs.erase rhs.erase []
  | conditionalJoin op condition lhs rhs _ => conditionalJoin op condition lhs.erase rhs.erase []

/-- The operator of a composite node. -/
def operator? : Expr → Option Operator
  | relation _ _ => none
  | setOp op _ _ _ => some op
  | unary op _ _ _ => some op
  | join op _ _ _ => some op
  | conditionalJoin op _ _ _ _ => some op

/-- The condition of a node that has one. -/
def condition? : Expr → Option Text
  | relation _ _ => none
  | setOp _ _ _ _ => none
  | unary _ condition _ _ => some condition
  | join _ _ _ _ => none
  | conditionalJoin _ condition _ _ _ => some condition

/-- The operands from left to right. -/
def children : Expr → List Expr
  | relation _ _ => []
  | setOp _ lhs rhs _ => [lhs, rhs]
  | unary _ _ operand _ => [operand]
  | join _ lhs rhs _ => [lhs, rhs]
  | conditionalJoin _ _ lhs rhs _ => [lhs, rhs]

/-- The names of the relations in the expression from left to right. -/
def relationNames : Expr → List Text
  | relation name _ => [name]
  | setOp _ lhs rhs _ => lhs.relationNames ++ rhs.relationNames
  | unary _ _ operand _ => operand.relationNames
  | join _ lhs rhs _ => lhs.relationNames ++ rhs.relationNames
  | conditionalJoin _ _ lhs rhs _ => lhs.relationNames ++ rhs.relationNames

/-- Whether the expression is a relation by itself. -/
def isRelation : Expr → Bool
  | relation _ _ => true
  | _ => false

/-- The number of nodes on the longest way from the root to a relation. -/
def height : Expr → Nat
  | relation _ _ => 1
  | setOp _ lhs rhs _ => 1 + max lhs.height rhs.height
  | unary _ _ operand _ => 1 + operand.height
  | join _ lhs rhs _ => 1 + max lhs.height rhs.height
  | conditionalJoin _ _ lhs rhs _ => 1 + max lhs.height rhs.height

/-- Whether the category of every operator fits the kind of node that it is in. -/
def WellFormed : Expr → Prop
  | relation _ _ => True
  | setOp op lhs rhs _ => op.category = .set ∧ lhs.WellFormed ∧ rhs.WellFormed
  | unary op _ operand _ => op.category = .unary ∧ operand.WellFormed
  | join op lhs rhs _ => op.category = .join ∧ lhs.WellFormed ∧ rhs.WellFormed
  | conditionalJoin op _ lhs rhs _ => op.category = .join ∧ lhs.WellFormed ∧ rhs.WellFormed

/-- Why parts do not make a node. -/
inductive Defect where
  | missingOperand (op : Operator)
  | missingCondition (op : Operator)
  | unexpectedCondition (op : Operator)
  deriving DecidableEq, Repr

/-- A condition with nothing in it counts as none. -/
def presentCondition : Option Text → Option Text
  | some [] => none
  | condition => condition

/-- Builds a composite node from its parts. The category of the operator decides which parts it
needs: a set operator two operands and no condition, a unary operator one operand and a condition,
a join two operands. A missing operand is reported before a defect of the condition. -/
def assemble (op : Operator) (lhs rhs : Option Expr) (condition : Option Text) (source : Text) :
    Except Defect Expr :=
  match op.category with
  | .set =>
      match lhs, rhs with
      | some lhs, some rhs =>
          match presentCondition condition with
          | none => .ok (setOp op lhs rhs source)
          | some _ => .error (.unexpectedCondition op)
      | _, _ => .error (.missingOperand op)
  | .unary =>
      match lhs with
      | some operand =>
          match presentCondition condition with
          | some condition => .ok (unary op condition operand source)
          | none => .error (.missingCondition op)
      | none => .error (.missingOperand op)
  | .join =>
      match lhs, rhs with
      | some lhs, some rhs =>
          match presentCondition condition with
          | none => .ok (join op lhs rhs source)
          | some condition => .ok (conditionalJoin op condition lhs rhs source)
      | _, _ => .error (.missingOperand op)

/-- Well-formed operands make a well-formed node. -/
theorem wellFormed_assemble {op : Operator} {lhs rhs : Option Expr} {condition : Option Text}
    {source : Text} {node : Expr} (hl : ∀ e ∈ lhs, e.WellFormed) (hr : ∀ e ∈ rhs, e.WellFormed)
    (h : assemble op lhs rhs condition source = .ok node) : node.WellFormed := by
  unfold assemble at h
  split at h <;> rename_i hop
  · split at h
    · split at h
      · cases h
        exact ⟨hop, hl _ rfl, hr _ rfl⟩
      · cases h
    · cases h
  · split at h
    · split at h
      · cases h
        exact ⟨hop, hl _ rfl⟩
      · cases h
    · cases h
  · split at h
    · split at h
      · cases h
        exact ⟨hop, hl _ rfl, hr _ rfl⟩
      · cases h
        exact ⟨hop, hl _ rfl, hr _ rfl⟩
    · cases h

end Expr

end RelQuery
