import RelQuery.Proofs.Evaluate.Resolve
import RelQuery.Proofs.Expr.Postorder

/-!
# Which node an error comes from

A tree is resolved in post-order, up to the first node that fails. An operand that fails decides for
the node it belongs to, before anything is checked about that node itself
(`FirstFails.resolve_eq`), and all kinds of nodes are alike in this. So the error of a tree is that
of a node whose operands and predecessors can all be resolved (`resolve_firstFails`).
-/

namespace RelQuery

/-- There is a plan for the expression. -/
def Resolves (catalog : Catalog) (e : Expr) : Prop :=
  ∃ plan, resolve catalog e = .ok plan

/-- Of some expressions from left to right, `node` is the first for which there is no plan. -/
def FirstFails (catalog : Catalog) (es : List Expr) (node : Expr) (cause : EvalError) : Prop :=
  ∃ before after, es = before ++ node :: after ∧ (∀ earlier ∈ before, Resolves catalog earlier) ∧
    resolve catalog node = .error cause

variable {catalog : Catalog} {e lhs rhs node child : Expr} {es before after : List Expr}
variable {cause : EvalError} {op : Operator} {given : Option Text}

/-! ## Lists of expressions -/

/-- Where there is nothing nothing fails. -/
theorem firstFails_nil : ¬ FirstFails catalog [] node cause := by
  rintro ⟨before, after, hes, -⟩
  simp at hes

/-- What fails first behind one that does not fail is the first that fails. -/
theorem FirstFails.cons (he : Resolves catalog e) (h : FirstFails catalog es node cause) :
    FirstFails catalog (e :: es) node cause := by
  obtain ⟨before, after, rfl, hbefore, hnode⟩ := h
  exact ⟨e :: before, after, rfl, List.forall_mem_cons.2 ⟨he, hbefore⟩, hnode⟩

/-- The first one fails, or it does not and a later one is the first that does. -/
theorem FirstFails.cons_cases (h : FirstFails catalog (e :: es) node cause) :
    e = node ∧ resolve catalog e = .error cause ∨
      Resolves catalog e ∧ FirstFails catalog es node cause := by
  obtain ⟨before, after, hes, hbefore, hnode⟩ := h
  cases before with
  | nil =>
      cases hes
      exact .inl ⟨rfl, hnode⟩
  | cons first before =>
      cases hes
      obtain ⟨hfirst, hbefore⟩ := List.forall_mem_cons.1 hbefore
      exact .inr ⟨hfirst, before, after, rfl, hbefore, hnode⟩

/-- Whatever comes behind it does not matter. -/
theorem FirstFails.append_left (h : FirstFails catalog es node cause) (others : List Expr) :
    FirstFails catalog (es ++ others) node cause := by
  obtain ⟨before, after, rfl, hbefore, hnode⟩ := h
  exact ⟨before, after ++ others, by simp, hbefore, hnode⟩

/-- Neither does what comes before, if none of that fails. -/
theorem FirstFails.append_right (h : FirstFails catalog es node cause)
    (hbefore : ∀ earlier ∈ before, Resolves catalog earlier) :
    FirstFails catalog (before ++ es) node cause := by
  obtain ⟨front, after, rfl, hfront, hnode⟩ := h
  exact ⟨before ++ front, after, by simp, List.forall_mem_append.2 ⟨hbefore, hfront⟩, hnode⟩

/-- One that fails by itself is the first. -/
theorem firstFails_singleton (h : resolve catalog e = .error cause) :
    FirstFails catalog [e] e cause :=
  ⟨[], [], rfl, nofun, h⟩

/-- There are plans for all, or one is the first for which there is none. -/
theorem forall_resolves_or_firstFails (catalog : Catalog) (es : List Expr) :
    (∀ e ∈ es, Resolves catalog e) ∨ ∃ node cause, FirstFails catalog es node cause := by
  induction es with
  | nil => exact .inl nofun
  | cons e es ih =>
      cases he : resolve catalog e with
      | error cause => exact .inr ⟨e, cause, (firstFails_singleton he).append_left es⟩
      | ok plan =>
          refine ih.imp (fun hes => List.forall_mem_cons.2 ⟨⟨plan, he⟩, hes⟩) ?_
          rintro ⟨node, cause, h⟩
          exact ⟨node, cause, h.cons ⟨plan, he⟩⟩

/-! ## Operands -/

/-- The operands of a binary node are resolved from left to right before anything else is done. -/
theorem Expr.BinaryNode.exists_resolve_eq (h : BinaryNode op lhs rhs given e)
    (catalog : Catalog) :
    ∃ f : Plan → Plan → Except EvalError Plan,
      resolve catalog e = (do f (← resolve catalog lhs) (← resolve catalog rhs)) := by
  cases h with
  | setOp source => exact ⟨planSet op, rfl⟩
  | join source => exact ⟨planJoin op, rfl⟩
  | conditionalJoin condition source =>
      exact ⟨fun left right => do planSelection (← planJoin op left right) condition, rfl⟩

/-- A binary node fails as the first of its operands that does. -/
theorem Expr.BinaryNode.resolve_eq_error (hnode : BinaryNode op lhs rhs given e)
    (h : FirstFails catalog [lhs, rhs] child cause) : resolve catalog e = .error cause := by
  obtain ⟨f, hresolve⟩ := hnode.exists_resolve_eq catalog
  rw [hresolve]
  obtain ⟨-, hleft⟩ | ⟨⟨left, hleft⟩, h⟩ := h.cons_cases
  · rw [hleft]
    rfl
  obtain ⟨-, hright⟩ | ⟨-, h⟩ := h.cons_cases
  · rw [hleft, hright]
    rfl
  · exact absurd h firstFails_nil

/-- The first operand that fails decides, whatever is wrong with the node itself. -/
theorem FirstFails.resolve_eq (h : FirstFails catalog e.children child cause) :
    resolve catalog e = .error cause := by
  induction e using Expr.nodeInduction with
  | relation name source => exact absurd h firstFails_nil
  | unary op condition operand source ih =>
      obtain ⟨-, hoperand⟩ | ⟨-, h⟩ := FirstFails.cons_cases h
      · rw [resolve, hoperand]
        rfl
      · exact absurd h firstFails_nil
  | binary op given lhs rhs e hnode ihl ihr =>
      rw [hnode.children_eq] at h
      exact hnode.resolve_eq_error h

/-- There is a plan for a node only if there is one for each operand. -/
theorem Resolves.children (h : Resolves catalog e) :
    ∀ child ∈ e.children, Resolves catalog child := by
  obtain ⟨plan, hplan⟩ := h
  obtain hall | ⟨child, cause, hfails⟩ := forall_resolves_or_firstFails catalog e.children
  · exact hall
  · cases hplan.symm.trans hfails.resolve_eq

/-! ## Trees -/

/-- Below a node that does not fail nothing fails. -/
theorem Resolves.postorder (h : Resolves catalog e) :
    ∀ node ∈ e.postorder, Resolves catalog node := by
  induction e using Expr.childInduction with
  | node e ih =>
      rw [Expr.postorder_eq]
      refine List.forall_mem_append.2 ⟨fun node hnode => ?_, List.forall_mem_singleton.2 h⟩
      obtain ⟨child, hchild, hmem⟩ := List.mem_flatMap.1 hnode
      exact ih child hchild (h.children child hchild) node hmem

/-- The error of a tree is that of the first node that fails, and the operands of this node do
not. -/
theorem exists_firstFails_postorder (h : resolve catalog e = .error cause) :
    ∃ node, FirstFails catalog e.postorder node cause ∧
      ∀ child ∈ node.children, Resolves catalog child := by
  induction e using Expr.childInduction with
  | node e ih =>
      rw [Expr.postorder_eq]
      -- The node itself fails, or the first operand that fails has the error.
      obtain hall | ⟨child, other, hfails⟩ := forall_resolves_or_firstFails catalog e.children
      · refine ⟨e, (firstFails_singleton h).append_right fun node hnode => ?_, hall⟩
        obtain ⟨child, hchild, hmem⟩ := List.mem_flatMap.1 hnode
        exact (hall child hchild).postorder node hmem
      · obtain rfl : other = cause := by
          cases hfails.resolve_eq.symm.trans h
          rfl
        obtain ⟨before, after, hchildren, hbefore, hchild⟩ := hfails
        obtain ⟨node, hnode, hoperands⟩ := ih child (by simp [hchildren]) hchild
        refine ⟨node, ?_, hoperands⟩
        rw [hchildren, List.flatMap_append, List.flatMap_cons]
        refine ((hnode.append_left _).append_right fun earlier hearlier => ?_).append_left _
        obtain ⟨sibling, hsibling, hmem⟩ := List.mem_flatMap.1 hearlier
        exact (hbefore sibling hsibling).postorder earlier hmem

/-- There is a plan for a tree only if there is one for every node. If there is none, the error is
that of the first node in post-order that fails, whose operands do not fail. So an error of an
operand comes before all that may be wrong with its node: the first operand that fails decides. -/
theorem resolve_firstFails (catalog : Catalog) (e : Expr) :
    (Resolves catalog e → ∀ node ∈ e.nodes, Resolves catalog node) ∧
    (∀ cause, resolve catalog e = .error cause → ∃ node,
      FirstFails catalog e.postorder node cause ∧
        ∀ child ∈ node.children, Resolves catalog child) ∧
    ∀ child cause, FirstFails catalog e.children child cause →
      resolve catalog e = .error cause := by
  refine ⟨fun h node hnode => ?_, fun cause h => exists_firstFails_postorder h,
    fun child cause h => h.resolve_eq⟩
  exact h.postorder node (e.postorder_perm.mem_iff.2 hnode)

/-- A tree with four faults: two operators in nodes of another kind, above a column and a relation
that are not there. The column comes first. -/
theorem resolve_firstFails_misplaced :
    let catalog : Catalog := ⟨[(['R'], ⟨[⟨['A'], .int64⟩], [[.int 1]]⟩)]⟩
    let projection : Expr := .unary .project ['Z'] (.named ['R']) []
    let right : Expr := .join .union projection (.named ['Q']) []
    let e : Expr := .setOp .select (.named ['R']) right []
    let cause : EvalError := .unknownColumn ['Z'] "projection {Z}".toList
    (Resolves catalog (.named ['R']) ∧
      ∀ node ∈ (Expr.named ['R']).nodes, Resolves catalog node) ∧
    FirstFails catalog e.children right cause ∧ resolve catalog e = .error cause ∧
    ∃ node, FirstFails catalog e.postorder node cause ∧
      ∀ child ∈ node.children, Resolves catalog child := by
  intro catalog projection right e cause
  have hrelation : Resolves catalog (.named ['R']) := ⟨_, rfl⟩
  have hfails : FirstFails catalog e.children right cause :=
    ⟨[.named ['R']], [], rfl, List.forall_mem_singleton.2 hrelation, rfl⟩
  have herror := (resolve_firstFails catalog e).2.2 right cause hfails
  exact ⟨⟨hrelation, (resolve_firstFails catalog _).1 hrelation⟩, hfails, herror,
    (resolve_firstFails catalog e).2.1 cause herror⟩

end RelQuery
