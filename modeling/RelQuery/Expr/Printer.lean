import RelQuery.Expr

/-!
# Printing expressions

The one-line form has single spaces and puts parentheses around composite operands that stand on
the right or under a unary operator; a left operand needs none, because operators apply from left
to right. The outline has one line per node, in pre-order, indented by two spaces per ancestor.
-/

namespace RelQuery.Expr

/-- A condition between braces. -/
def braced (condition : Text) : Text :=
  '{' :: condition ++ ['}']

/-- A text between parentheses. -/
def parenthesized (text : Text) : Text :=
  '(' :: text ++ [')']

/-- The operand's one-line form, in parentheses unless the operand is a relation. -/
def operandText (operand : Expr) (oneLine : Text) : Text :=
  if operand.isRelation then oneLine else parenthesized oneLine

/-- The one-line form. -/
def toText : Expr → Text
  | relation name _ => name
  | setOp op lhs rhs _ => lhs.toText ++ [' ', op.symbol, ' '] ++ operandText rhs rhs.toText
  | unary op condition operand _ =>
      [op.symbol, ' '] ++ braced condition ++ [' '] ++ operandText operand operand.toText
  | join op lhs rhs _ => lhs.toText ++ [' ', op.symbol, ' '] ++ operandText rhs rhs.toText
  | conditionalJoin op condition lhs rhs _ =>
      lhs.toText ++ [' ', op.symbol, ' '] ++ braced condition ++ [' '] ++
        operandText rhs rhs.toText

/-- What the outline says of a node: the name of a relation, or the symbol and the word of an
operator and then the condition if there is one. -/
def label : Expr → Text
  | relation name _ => name
  | setOp op _ _ _ => op.symbol :: ' ' :: op.word
  | unary op condition _ _ => op.symbol :: ' ' :: op.word ++ ' ' :: braced condition
  | join op _ _ _ => op.symbol :: ' ' :: op.word
  | conditionalJoin op condition _ _ _ => op.symbol :: ' ' :: op.word ++ ' ' :: braced condition

/-- The nodes in pre-order, each with the number of its ancestors below `depth`. -/
def outlineFrom (depth : Nat) (node : Expr) : List (Nat × Expr) :=
  (depth, node) ::
    match node with
    | relation _ _ => []
    | setOp _ lhs rhs _ => outlineFrom (depth + 1) lhs ++ outlineFrom (depth + 1) rhs
    | unary _ _ operand _ => outlineFrom (depth + 1) operand
    | join _ lhs rhs _ => outlineFrom (depth + 1) lhs ++ outlineFrom (depth + 1) rhs
    | conditionalJoin _ _ lhs rhs _ => outlineFrom (depth + 1) lhs ++ outlineFrom (depth + 1) rhs

/-- One line of the outline. -/
def outlineLine (entry : Nat × Expr) : Text :=
  List.replicate (2 * entry.1) ' ' ++ entry.2.label ++ ['\n']

/-- The outline of an expression. -/
def outline (e : Expr) : Text :=
  (outlineFrom 0 e).flatMap outlineLine

end RelQuery.Expr
