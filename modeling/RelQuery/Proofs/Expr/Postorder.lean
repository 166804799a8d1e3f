import Mathlib.Data.List.Perm.Basic
import RelQuery.Proofs.Expr.Nodes

/-!
# Operands before their node

The nodes of a tree in post-order, which is the order in which they are built and resolved: those of
the operands from left to right, and then the node that has these operands (`postorder_eq`). They
are the nodes of the tree in another order (`postorder_perm`).
-/

namespace RelQuery.Expr

/-- The nodes in post-order. -/
def postorder : Expr → List Expr
  | relation name source => [relation name source]
  | setOp op lhs rhs source => lhs.postorder ++ rhs.postorder ++ [setOp op lhs rhs source]
  | unary op condition operand source => operand.postorder ++ [unary op condition operand source]
  | join op lhs rhs source => lhs.postorder ++ rhs.postorder ++ [join op lhs rhs source]
  | conditionalJoin op condition lhs rhs source =>
      lhs.postorder ++ rhs.postorder ++ [conditionalJoin op condition lhs rhs source]

variable {op : Operator} {given : Option Text} {e lhs rhs : Expr}

/-- A node comes behind the nodes of its operands. -/
theorem postorder_eq (e : Expr) : e.postorder = e.children.flatMap postorder ++ [e] := by
  cases e <;> simp [postorder, children]

/-- In the other order it comes before them. -/
theorem nodes_eq (e : Expr) : e.nodes = e :: e.children.flatMap nodes := by
  cases e <;> simp [nodes, children]

/-- A binary node has two operands. -/
theorem BinaryNode.children_eq (h : BinaryNode op lhs rhs given e) : e.children = [lhs, rhs] := by
  cases h <;> rfl

/-- Induction over a tree in which nodes of all kinds are one case. -/
theorem childInduction {motive : Expr → Prop}
    (node : ∀ e, (∀ child ∈ e.children, motive child) → motive e) (e : Expr) : motive e := by
  induction e using nodeInduction with
  | relation name source => exact node _ nofun
  | unary op condition operand source ih => exact node _ (List.forall_mem_singleton.2 ih)
  | binary op given lhs rhs e hnode ihl ihr =>
      refine node e ?_
      rw [hnode.children_eq]
      exact List.forall_mem_cons.2 ⟨ihl, List.forall_mem_singleton.2 ihr⟩

/-- The nodes in post-order are the nodes in pre-order, moved. -/
theorem postorder_perm (e : Expr) : e.postorder.Perm e.nodes := by
  induction e using childInduction with
  | node e ih =>
      rw [postorder_eq, nodes_eq]
      exact (List.perm_append_singleton _ _).trans ((List.Perm.flatMap_left _ ih).cons e)

end RelQuery.Expr
