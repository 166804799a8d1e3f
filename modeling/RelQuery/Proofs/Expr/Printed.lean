import RelQuery.Expr.Printer
import RelQuery.Proofs.Expr.Nodes
import RelQuery.Proofs.Syntax.Lexing

/-!
# The one-line form as a text

`Printable` trees are those whose one-line form can be cut into the pieces it was made of. Their
form is well nested, and `nesting_toText` says how deep: as deep as composite operands stand on the
right or under a unary operator. `printedGroups` lists these operands, each of which is printed
between parentheses; over the bare text the parentheses in them are balanced if those in all
conditions are (`balanced_printedGroups`).
-/

namespace RelQuery.Expr

/-- Operators fit their nodes, relations have names that can be read, and conditions have something
in them and no closing brace. -/
structure Printable (e : Expr) : Prop where
  wellFormed : e.WellFormed
  names : ∀ name ∈ e.relationNames, isRelationName name
  conditions : ∀ condition ∈ e.conditions, condition ≠ [] ∧ '}' ∉ condition

/-- How many groups the operand's one-line form opens one inside another, when the form without the
outer parentheses opens `depth`. -/
def operandDepth (operand : Expr) (depth : Nat) : Nat :=
  if operand.isRelation then 0 else depth + 1

/-- How many groups the one-line form opens one inside another. -/
def groupDepth : Expr → Nat
  | relation _ _ => 0
  | setOp _ lhs rhs _ => max lhs.groupDepth (operandDepth rhs rhs.groupDepth)
  | unary _ _ operand _ => operandDepth operand operand.groupDepth
  | join _ lhs rhs _ => max lhs.groupDepth (operandDepth rhs rhs.groupDepth)
  | conditionalJoin _ _ lhs rhs _ => max lhs.groupDepth (operandDepth rhs rhs.groupDepth)

/-- The operands that stand between parentheses in the operand's one-line form, when `inner` are
those inside it. -/
def operandGroups (operand : Expr) (inner : List Expr) : List Expr :=
  if operand.isRelation then [] else operand :: inner

/-- The operands that stand between parentheses in the one-line form. -/
def printedGroups : Expr → List Expr
  | relation _ _ => []
  | setOp _ lhs rhs _ => lhs.printedGroups ++ operandGroups rhs rhs.printedGroups
  | unary _ _ operand _ => operandGroups operand operand.printedGroups
  | join _ lhs rhs _ => lhs.printedGroups ++ operandGroups rhs rhs.printedGroups
  | conditionalJoin _ _ lhs rhs _ => lhs.printedGroups ++ operandGroups rhs rhs.printedGroups

/-- A condition, if there is one, as it stands between an operator and an operand. -/
def conditionText : (given : Option Text) → Text
  | none => []
  | some condition => braced condition ++ [' ']

variable {op : Operator} {given : Option Text} {name condition source : Text}
variable {e lhs rhs operand : Expr} {depth : Nat}

namespace BinaryNode

/-- A binary node is printed with its operator and its condition between the operands, of which the
right one may need parentheses. -/
theorem toText_eq (h : BinaryNode op lhs rhs given e) :
    e.toText = lhs.toText ++ ([' ', op.symbol, ' '] ++ conditionText given) ++
      operandText rhs rhs.toText := by
  cases h <;> simp [toText, conditionText]

/-- Only the right operand may add a level of parentheses. -/
theorem groupDepth_eq (h : BinaryNode op lhs rhs given e) :
    e.groupDepth = max lhs.groupDepth (operandDepth rhs rhs.groupDepth) := by
  cases h <;> rfl

/-- And only it may be a group that is printed. -/
theorem printedGroups_eq (h : BinaryNode op lhs rhs given e) :
    e.printedGroups = lhs.printedGroups ++ operandGroups rhs rhs.printedGroups := by
  cases h <;> rfl

end BinaryNode

/-- A unary node is printed with its operator and its condition in front. -/
theorem toText_unary : (unary op condition operand source).toText =
    [op.symbol, ' '] ++ conditionText (some condition) ++ operandText operand operand.toText := by
  simp [toText, conditionText]

/-! ## Printable trees -/

/-- A relation is printable if its name is one. -/
theorem Printable.relation (h : isRelationName name) : (Expr.relation name source).Printable where
  wellFormed := trivial
  names := by simpa [relationNames] using h
  conditions := by simp

/-- And only then. -/
theorem Printable.isRelationName (h : (Expr.relation name source).Printable) :
    isRelationName name :=
  h.names name (by simp [relationNames])

/-- A unary node is printable if its operator is unary, its condition has no closing brace and
something in it, and its operand is printable. -/
theorem printable_unary : (unary op condition operand source).Printable ↔
    op.category = .unary ∧ (condition ≠ [] ∧ '}' ∉ condition) ∧ operand.Printable := by
  constructor
  · rintro ⟨⟨hop, ho⟩, hnames, hconditions⟩
    rw [conditions_unary, List.forall_mem_cons] at hconditions
    exact ⟨hop, hconditions.1, ⟨ho, hnames, hconditions.2⟩⟩
  · rintro ⟨hop, hcondition, ho⟩
    refine ⟨⟨hop, ho.wellFormed⟩, ho.names, ?_⟩
    rw [conditions_unary, List.forall_mem_cons]
    exact ⟨hcondition, ho.conditions⟩

/-- The parts of a printable binary node. -/
theorem BinaryNode.printable (h : BinaryNode op lhs rhs given e) (he : e.Printable) :
    op.category ≠ .unary ∧ (∀ c ∈ given, c ≠ [] ∧ '}' ∉ c) ∧ lhs.Printable ∧ rhs.Printable := by
  obtain ⟨hop, hl, hr⟩ := h.wellFormed he.wellFormed
  have hnames := he.names
  have hconditions := he.conditions
  rw [h.relationNames_eq, List.forall_mem_append] at hnames
  rw [h.conditions_eq, List.forall_mem_append, List.forall_mem_append] at hconditions
  obtain ⟨hgiven, hcl, hcr⟩ := hconditions
  simp only [Option.mem_toList] at hgiven
  exact ⟨hop, hgiven, ⟨hl, hnames.1, hcl⟩, ⟨hr, hnames.2, hcr⟩⟩

/-- Printable parts make a printable node if the node is well formed. -/
theorem BinaryNode.printable_of (h : BinaryNode op lhs rhs given e) (he : e.WellFormed)
    (hgiven : ∀ c ∈ given, c ≠ [] ∧ '}' ∉ c) (hl : lhs.Printable) (hr : rhs.Printable) :
    e.Printable where
  wellFormed := he
  names := by
    rw [h.relationNames_eq]
    exact List.forall_mem_append.2 ⟨hl.names, hr.names⟩
  conditions := by
    rw [h.conditions_eq, List.forall_mem_append, List.forall_mem_append]
    simp only [Option.mem_toList]
    exact ⟨hgiven, hl.conditions, hr.conditions⟩

/-- The source of a node has nothing to do with how it is printed. -/
theorem Printable.withSource (h : e.Printable) (source : Text) :
    (e.withSource source).Printable where
  wellFormed := wellFormed_withSource.2 h.wellFormed
  names := by simpa using h.names
  conditions := by simpa using h.conditions

/-- Nor has it with the parentheses. -/
@[simp] theorem groupDepth_withSource : (e.withSource source).groupDepth = e.groupDepth := by
  cases e <;> rfl

/-- What is printed is never empty. -/
theorem Printable.toText_ne_nil (h : e.Printable) : e.toText ≠ [] := by
  cases e with
  | relation name source => exact (isRelationName_iff.1 h.isRelationName).1
  | _ => simp [toText]

/-! ## Nesting -/

/-- A space is plain text. -/
theorem plain_space : Text.Plain [' '] :=
  plain_blank rfl

/-- An operator in front of an operand. -/
theorem plain_prefixOperator (op : Operator) : Text.Plain [op.symbol, ' '] :=
  (plain_symbol op).append plain_space

/-- An operator between two operands. -/
theorem plain_infixOperator (op : Operator) : Text.Plain [' ', op.symbol, ' '] :=
  plain_space.append (plain_prefixOperator op)

/-- A condition is printed between braces, and so it is well nested. -/
theorem wellNested_conditionText (h : ∀ c ∈ given, '}' ∉ c) : (conditionText given).WellNested := by
  cases given with
  | none => exact .nil
  | some condition =>
      exact (Text.WellNested.condition (h condition rfl)).append plain_space.wellNested

/-- So is an operator with its condition between operands. -/
theorem wellNested_infixText (h : ∀ c ∈ given, '}' ∉ c) :
    Text.WellNested ([' ', op.symbol, ' '] ++ conditionText given) :=
  (plain_infixOperator op).wellNested.append (wellNested_conditionText h)

/-- So is one in front of its operand. -/
theorem wellNested_prefixText (h : '}' ∉ condition) :
    Text.WellNested ([op.symbol, ' '] ++ conditionText (some condition)) :=
  (plain_prefixOperator op).wellNested.append (wellNested_conditionText (by simpa using h))

/-- Parentheses around an operand leave it well nested. -/
theorem wellNested_operandText (h : operand.toText.WellNested) :
    (operandText operand operand.toText).WellNested := by
  unfold operandText
  split
  · exact h
  · exact h.group

/-- The one-line form is well nested, whatever parentheses the conditions contain. -/
theorem wellNested_toText (h : e.Printable) : e.toText.WellNested := by
  induction e using nodeInduction with
  | relation name source => exact (plain_of_isRelationName h.isRelationName).wellNested
  | unary op condition operand source ih =>
      obtain ⟨-, hcondition, ho⟩ := printable_unary.1 h
      rw [toText_unary]
      exact (wellNested_prefixText hcondition.2).append (wellNested_operandText (ih ho))
  | binary op given lhs rhs e hnode ihl ihr =>
      obtain ⟨-, hgiven, hl, hr⟩ := hnode.printable h
      rw [hnode.toText_eq]
      refine ((ihl hl).append (wellNested_infixText ?_)).append (wellNested_operandText (ihr hr))
      exact fun c hc => (hgiven c hc).2

/-- A condition opens no parenthesis. -/
theorem deepest_conditionText (h : ∀ c ∈ given, '}' ∉ c) :
    Text.deepest depth (Text.outside (conditionText given)) = depth := by
  cases given with
  | none => rfl
  | some condition =>
      have hbraced : (braced condition).WellNested := .condition (h condition rfl)
      rw [conditionText, hbraced.endsOutside.outside_append, braced,
        Text.outside_condition (h condition rfl)]
      rfl

/-- A plain text in front of a condition is as deep as nothing. -/
theorem deepest_append_conditionText {text : Text} (htext : text.Plain) (h : ∀ c ∈ given, '}' ∉ c) :
    Text.deepest depth (Text.outside (text ++ conditionText given)) = depth := by
  rw [htext.wellNested.deepest_append, deepest_conditionText h, htext.deepest_eq, Nat.max_self]

/-- The parentheses around an operand count as its depth as an operand says. -/
theorem deepest_operandText (hoperand : operand.Printable)
    (h : ∀ depth, Text.deepest depth (Text.outside operand.toText) = depth + operand.groupDepth)
    (depth : Nat) :
    Text.deepest depth (Text.outside (operandText operand operand.toText)) =
      depth + operandDepth operand operand.groupDepth := by
  unfold operandText operandDepth
  split
  · cases operand with
    | relation name source => exact h depth
    | _ => contradiction
  · rw [parenthesized, (wellNested_toText hoperand).deepest_group, h, Nat.add_right_comm,
      Nat.add_assoc]

/-- The depth of a tree is how deep parentheses are nested where it is printed. -/
theorem deepest_toText (h : e.Printable) (depth : Nat) :
    Text.deepest depth (Text.outside e.toText) = depth + e.groupDepth := by
  induction e using nodeInduction generalizing depth with
  | relation name source =>
      exact (plain_of_isRelationName h.isRelationName).deepest_eq
  | unary op condition operand source ih =>
      obtain ⟨-, hcondition, ho⟩ := printable_unary.1 h
      have hgiven : ∀ c ∈ some condition, '}' ∉ c := by simpa using hcondition.2
      rw [toText_unary, (wellNested_prefixText hcondition.2).deepest_append,
        deepest_append_conditionText (plain_prefixOperator op) hgiven,
        deepest_operandText ho (ih ho), groupDepth, Nat.max_eq_right (Nat.le_add_right _ _)]
  | binary op given lhs rhs e hnode ihl ihr =>
      obtain ⟨-, hgiven, hl, hr⟩ := hnode.printable h
      replace hgiven : ∀ c ∈ given, '}' ∉ c := fun c hc => (hgiven c hc).2
      have hleft := wellNested_toText hl
      have hbetween : Text.WellNested ([' ', op.symbol, ' '] ++ conditionText given) :=
        wellNested_infixText hgiven
      have hbefore := hleft.append hbetween
      rw [hnode.toText_eq, hbefore.deepest_append, hleft.deepest_append,
        deepest_append_conditionText (plain_infixOperator op) hgiven, ihl hl,
        deepest_operandText hr (ihr hr), Nat.max_eq_left (Nat.le_add_right _ _),
        Nat.add_max_add_left, hnode.groupDepth_eq]

/-- The one-line form nests parentheses as deep as composite operands need them. -/
theorem nesting_toText (h : e.Printable) : e.toText.nesting = e.groupDepth := by
  rw [Text.nesting, deepest_toText h, Nat.zero_add]

/-! ## Balance over the bare text -/

/-- Braces around a condition leave it balanced. -/
theorem balanced_braced (h : condition.Balanced) : (braced condition).Balanced := by
  have hopen : Text.Balanced ['{'] := by decide
  have hclose : Text.Balanced ['}'] := by decide
  exact (hopen.append h).append hclose

/-- So the text of a condition is balanced if the condition is. -/
theorem balanced_conditionText (h : ∀ c ∈ given, c.Balanced) : (conditionText given).Balanced := by
  cases given with
  | none => decide
  | some condition => exact (balanced_braced (h condition rfl)).append plain_space.balanced

/-- Parentheses around an operand leave it balanced. -/
theorem balanced_operandText (h : operand.toText.Balanced) :
    (operandText operand operand.toText).Balanced := by
  unfold operandText
  split
  · exact h
  · exact h.group

/-- Parentheses in conditions do no harm where they are balanced themselves. -/
theorem balanced_toText (h : e.Printable) (hbalanced : ∀ c ∈ e.conditions, c.Balanced) :
    e.toText.Balanced := by
  induction e using nodeInduction with
  | relation name source => exact (plain_of_isRelationName h.isRelationName).balanced
  | unary op condition operand source ih =>
      obtain ⟨-, -, ho⟩ := printable_unary.1 h
      rw [conditions_unary, List.forall_mem_cons] at hbalanced
      rw [toText_unary]
      refine ((plain_prefixOperator op).balanced.append (balanced_conditionText ?_)).append
        (balanced_operandText (ih ho hbalanced.2))
      rintro _ ⟨⟩
      exact hbalanced.1
  | binary op given lhs rhs e hnode ihl ihr =>
      obtain ⟨-, -, hl, hr⟩ := hnode.printable h
      rw [hnode.conditions_eq, List.forall_mem_append, List.forall_mem_append] at hbalanced
      obtain ⟨hgiven, hbl, hbr⟩ := hbalanced
      have hcondition : (conditionText given).Balanced :=
        balanced_conditionText (by simpa using hgiven)
      have hbetween := (plain_infixOperator op).balanced.append hcondition
      rw [hnode.toText_eq]
      exact ((ihl hl hbl).append hbetween).append (balanced_operandText (ihr hr hbr))

/-- The groups of an operand are its own, and the operand itself if it is in parentheses. -/
theorem balanced_operandGroups (hoperand : operand.toText.Balanced)
    (h : ∀ group ∈ operand.printedGroups, group.toText.Balanced) :
    ∀ group ∈ operandGroups operand operand.printedGroups, group.toText.Balanced := by
  unfold operandGroups
  split
  · simp
  · exact List.forall_mem_cons.2 ⟨hoperand, h⟩

/-- In a tree with balanced conditions all groups that are printed are balanced. -/
theorem balanced_printedGroups (h : e.Printable) (hbalanced : ∀ c ∈ e.conditions, c.Balanced) :
    ∀ group ∈ e.printedGroups, group.toText.Balanced := by
  induction e using nodeInduction with
  | relation name source => simp [printedGroups]
  | unary op condition operand source ih =>
      obtain ⟨-, -, ho⟩ := printable_unary.1 h
      rw [conditions_unary, List.forall_mem_cons] at hbalanced
      exact balanced_operandGroups (balanced_toText ho hbalanced.2) (ih ho hbalanced.2)
  | binary op given lhs rhs e hnode ihl ihr =>
      obtain ⟨-, -, hl, hr⟩ := hnode.printable h
      rw [hnode.conditions_eq, List.forall_mem_append, List.forall_mem_append] at hbalanced
      obtain ⟨-, hbl, hbr⟩ := hbalanced
      rw [hnode.printedGroups_eq]
      exact List.forall_mem_append.2
        ⟨ihl hl hbl, balanced_operandGroups (balanced_toText hr hbr) (ihr hr hbr)⟩

end RelQuery.Expr
