import RelQuery.Expr

/-!
# The nodes of an expression

The nodes of a tree in pre-order and what stands at them: the operators of the composite nodes and
the conditions of those that have one. `shape` is the tree without sources and conditions, so that
a tree is given, sources apart, by its shape and its list of conditions. Nodes of binary operators
are alike but for the condition that some have; `BinaryNode` treats them as one, `nodeInduction` is
the induction over trees that follows, and `assemble_binary` says that the reader makes such nodes.
-/

namespace RelQuery.Expr

/-- The nodes in pre-order. -/
def nodes : Expr → List Expr
  | relation name source => [relation name source]
  | setOp op lhs rhs source => setOp op lhs rhs source :: (lhs.nodes ++ rhs.nodes)
  | unary op condition operand source => unary op condition operand source :: operand.nodes
  | join op lhs rhs source => join op lhs rhs source :: (lhs.nodes ++ rhs.nodes)
  | conditionalJoin op condition lhs rhs source =>
      conditionalJoin op condition lhs rhs source :: (lhs.nodes ++ rhs.nodes)

/-- The operators of the composite nodes in pre-order. -/
def operators (e : Expr) : List Operator :=
  e.nodes.filterMap operator?

/-- The conditions of the nodes that have one, in pre-order. -/
def conditions (e : Expr) : List Text :=
  e.nodes.filterMap condition?

/-- The tree without sources and conditions. -/
def shape : Expr → Expr
  | relation name _ => relation name []
  | setOp op lhs rhs _ => setOp op lhs.shape rhs.shape []
  | unary op _ operand _ => unary op [] operand.shape []
  | join op lhs rhs _ => join op lhs.shape rhs.shape []
  | conditionalJoin op _ lhs rhs _ => conditionalJoin op [] lhs.shape rhs.shape []

/-- A node of a binary operator, with the condition if it has one. -/
inductive BinaryNode (op : Operator) (lhs rhs : Expr) : (given : Option Text) → Expr → Prop where
  | setOp (source : Text) : BinaryNode op lhs rhs none (setOp op lhs rhs source)
  | join (source : Text) : BinaryNode op lhs rhs none (join op lhs rhs source)
  | conditionalJoin (condition source : Text) :
      BinaryNode op lhs rhs (some condition) (conditionalJoin op condition lhs rhs source)

/-- Induction over a tree in which the nodes of all binary operators are one case. -/
theorem nodeInduction {motive : Expr → Prop}
    (relation : ∀ name source, motive (relation name source))
    (unary : ∀ op condition operand source, motive operand →
      motive (unary op condition operand source))
    (binary : ∀ op given lhs rhs e, BinaryNode op lhs rhs given e → motive lhs → motive rhs →
      motive e) (e : Expr) : motive e := by
  induction e with
  | relation name source => exact relation name source
  | setOp op lhs rhs source ihl ihr => exact binary op none lhs rhs _ (.setOp source) ihl ihr
  | unary op condition operand source ih => exact unary op condition operand source ih
  | join op lhs rhs source ihl ihr => exact binary op none lhs rhs _ (.join source) ihl ihr
  | conditionalJoin op condition lhs rhs source ihl ihr =>
      exact binary op (some condition) lhs rhs _ (.conditionalJoin condition source) ihl ihr

variable {op : Operator} {given : Option Text} {name condition source : Text}
variable {e lhs rhs operand node : Expr}

/-- A relation has no operator. -/
@[simp] theorem operators_relation : (relation name source).operators = [] := rfl

/-- The operator of a node comes before those of its operand. -/
@[simp] theorem operators_unary :
    (unary op condition operand source).operators = op :: operand.operators := by
  simp [operators, nodes, operator?]

/-- A relation has no condition. -/
@[simp] theorem conditions_relation : (relation name source).conditions = [] := rfl

/-- The condition of a node comes before those of its operand. -/
@[simp] theorem conditions_unary :
    (unary op condition operand source).conditions = condition :: operand.conditions := by
  simp [conditions, nodes, condition?]

namespace BinaryNode

/-- A binary node has the operator that it was given. -/
theorem operator?_eq (h : BinaryNode op lhs rhs given e) : e.operator? = some op := by
  cases h <;> rfl

/-- Its operator comes before those of its operands. -/
theorem operators_eq (h : BinaryNode op lhs rhs given e) :
    e.operators = op :: (lhs.operators ++ rhs.operators) := by
  cases h <;> simp [operators, nodes, operator?]

/-- Its condition, if there is one, comes before those of its operands. -/
theorem conditions_eq (h : BinaryNode op lhs rhs given e) :
    e.conditions = given.toList ++ (lhs.conditions ++ rhs.conditions) := by
  cases h <;> simp [conditions, nodes, condition?, List.filterMap_cons]

/-- The relations of the left operand come before those of the right one. -/
theorem relationNames_eq (h : BinaryNode op lhs rhs given e) :
    e.relationNames = lhs.relationNames ++ rhs.relationNames := by
  cases h <;> rfl

/-- A node is one higher than the higher one of its operands. -/
theorem height_eq (h : BinaryNode op lhs rhs given e) :
    e.height = 1 + max lhs.height rhs.height := by
  cases h <;> rfl

/-- It is no relation. -/
theorem isRelation_eq (h : BinaryNode op lhs rhs given e) : e.isRelation = false := by
  cases h <;> rfl

/-- In a well formed tree its operator is binary and its operands are well formed. -/
theorem wellFormed (h : BinaryNode op lhs rhs given e) (he : e.WellFormed) :
    op.category ≠ .unary ∧ lhs.WellFormed ∧ rhs.WellFormed := by
  cases h with
  | setOp source => exact ⟨by simp [he.1], he.2⟩
  | join source => exact ⟨by simp [he.1], he.2⟩
  | conditionalJoin condition source => exact ⟨by simp [he.1], he.2⟩

end BinaryNode

/-! ## Sources -/

/-- The source of a node has nothing to do with the operators in it. -/
@[simp] theorem operators_withSource : (e.withSource source).operators = e.operators := by
  cases e <;> simp [withSource, operators, nodes, operator?, List.filterMap_cons]

/-- Nor with its conditions. -/
@[simp] theorem conditions_withSource : (e.withSource source).conditions = e.conditions := by
  cases e <;> simp [withSource, conditions, nodes, condition?, List.filterMap_cons]

/-- Nor with its shape. -/
@[simp] theorem shape_withSource : (e.withSource source).shape = e.shape := by
  cases e <;> rfl

/-- Without sources a tree with another source is the same one. -/
@[simp] theorem erase_withSource : (e.withSource source).erase = e.erase := by
  cases e <;> rfl

/-- A relation stays one with another source. -/
@[simp] theorem isRelation_withSource : (e.withSource source).isRelation = e.isRelation := by
  cases e <;> rfl

/-- Another source makes no tree higher. -/
@[simp] theorem height_withSource : (e.withSource source).height = e.height := by
  cases e <;> rfl

/-- The relations stay the same. -/
@[simp] theorem relationNames_withSource :
    (e.withSource source).relationNames = e.relationNames := by
  cases e <;> rfl

/-- A tree is well formed whatever its source. -/
@[simp] theorem wellFormed_withSource : (e.withSource source).WellFormed ↔ e.WellFormed := by
  cases e <;> rfl

/-! ## Assembling -/

/-- What a unary operator and an operand make. -/
theorem assemble_unary (hop : op.category = .unary)
    (h : assemble op (some operand) none given source = .ok node) :
    ∃ condition, presentCondition given = some condition ∧
      node = unary op condition operand source := by
  simp only [assemble, hop] at h
  split at h
  · rename_i condition hcondition
    cases h
    exact ⟨condition, hcondition, rfl⟩
  · cases h

/-- What a binary operator and two operands make. -/
theorem assemble_binary (hop : op.category ≠ .unary)
    (h : assemble op (some lhs) (some rhs) given source = .ok node) :
    BinaryNode op lhs rhs (presentCondition given) node := by
  cases hcategory : op.category with
  | unary => exact absurd hcategory hop
  | set =>
      simp only [assemble, hcategory] at h
      split at h
      · rename_i hcondition
        cases h
        rw [hcondition]
        exact .setOp source
      · cases h
  | join =>
      simp only [assemble, hcategory] at h
      split at h
      · rename_i hcondition
        cases h
        rw [hcondition]
        exact .join source
      · rename_i condition hcondition
        cases h
        rw [hcondition]
        exact .conditionalJoin condition source

/-- Only the condition can be wrong when the operands are there. -/
theorem assemble_eq_error {left right : Option Expr} {defect : Defect}
    (h : assemble op left right given source = .error defect) (hleft : left.isSome)
    (hright : op.category ≠ .unary → right.isSome) :
    op.category = .unary ∧ defect = .missingCondition op ∨
      op.category = .set ∧ defect = .unexpectedCondition op := by
  obtain ⟨lhs, rfl⟩ := Option.isSome_iff_exists.1 hleft
  cases hcategory : op.category with
  | unary =>
      simp only [assemble, hcategory] at h
      split at h
      · cases h
      · cases h
        exact .inl ⟨rfl, rfl⟩
  | set =>
      obtain ⟨rhs, rfl⟩ := Option.isSome_iff_exists.1 (hright (by simp [hcategory]))
      simp only [assemble, hcategory] at h
      split at h
      · cases h
      · cases h
        exact .inr ⟨rfl, rfl⟩
  | join =>
      obtain ⟨rhs, rfl⟩ := Option.isSome_iff_exists.1 (hright (by simp [hcategory]))
      simp only [assemble, hcategory] at h
      split at h <;> cases h

/-- There is no condition where none was given. -/
@[simp] theorem presentCondition_none : presentCondition none = none := rfl

/-- The condition of a node that has one is not empty. -/
theorem presentCondition_eq_some (h : presentCondition given = some condition) :
    given = some condition ∧ condition ≠ [] := by
  match given with
  | none => cases h
  | some [] => cases h
  | some (c :: text) =>
      cases h
      exact ⟨rfl, List.cons_ne_nil _ _⟩

/-- A condition that is not empty is there. -/
theorem presentCondition_of_ne_nil (h : ∀ c ∈ given, c ≠ []) : presentCondition given = given := by
  match given with
  | none => rfl
  | some [] => exact absurd rfl (h [] rfl)
  | some (c :: text) => rfl

/-- A well-formed binary node is made again from operands that are the same but for sources. -/
theorem BinaryNode.assemble {l r : Expr} (h : BinaryNode op lhs rhs given e) (he : e.WellFormed)
    (hgiven : ∀ c ∈ given, c ≠ []) (hl : l.erase = lhs.erase) (hr : r.erase = rhs.erase)
    (source : Text) :
    ∃ node, Expr.assemble op (some l) (some r) given source = .ok node ∧ node.erase = e.erase ∧
      node.source = source := by
  have hpresent := presentCondition_of_ne_nil hgiven
  cases h with
  | setOp _ =>
      exact ⟨.setOp op l r source, by simp [Expr.assemble, he.1, hpresent],
        by simp [erase, hl, hr], rfl⟩
  | join _ =>
      exact ⟨.join op l r source, by simp [Expr.assemble, he.1, hpresent],
        by simp [erase, hl, hr], rfl⟩
  | conditionalJoin condition _ =>
      exact ⟨.conditionalJoin op condition l r source, by simp [Expr.assemble, he.1, hpresent],
        by simp [erase, hl, hr], rfl⟩

end RelQuery.Expr
