import RelQuery.Expr

/-!
# Reading errors

A reading error says what is wrong, where, and what was expected there. Its place is a number of
characters into the text at hand: the whole expression, or the group that was being read.
-/

namespace RelQuery.Syntax

/-- What the reader expects. -/
inductive Mode where
  /-- Nothing has been read: an operand or a unary operator. -/
  | start
  /-- An operator has been read: an operand. -/
  | operand
  /-- A left operand is complete: a binary operator. -/
  | operator
  /-- All parts of a node are there: the node is built before anything else is read. -/
  | build
  deriving DecidableEq, Repr

/-- The name of a mode in messages and logs. -/
def Mode.word : Mode → Text
  | start => "start".toList
  | operand => "expect-operand".toList
  | operator => "expect-operator".toList
  | build => "build".toList

/-- What is wrong with an expression. -/
inductive Cause where
  | unexpectedToken
  /-- A unary operator stands behind a complete operand. -/
  | misplacedUnary
  | unbalancedParenthesis
  | emptyGroup
  | emptyName
  | unknownRelation (name : Text)
  /-- There is a node to build and no operator. -/
  | missingOperator
  /-- The parts of a node do not fit its operator. -/
  | defect (defect : Expr.Defect)
  | openCondition
  /-- There is no operand at all. -/
  | noRelation
  /-- The text ends within a node. -/
  | unfinished
  | nestedTooDeep (limit : Nat)
  | treeTooHigh (limit : Nat)
  deriving DecidableEq, Repr

/-- The text for a defect of a node's parts. -/
def defectMessage : Expr.Defect → Text
  | .missingOperand op => op.word ++ " is missing an operand".toList
  | .missingCondition op => op.word ++ " requires a condition".toList
  | .unexpectedCondition op => op.word ++ " does not take a condition".toList

/-- The text for a cause. -/
def Cause.message : Cause → Text
  | unexpectedToken => "unexpected token".toList
  | misplacedUnary => "prefix operator after a complete operand".toList
  | unbalancedParenthesis => "unbalanced parenthesis".toList
  | emptyGroup => "empty parenthesized expression".toList
  | emptyName => "expected a relation name".toList
  | unknownRelation name => "unknown relation '".toList ++ name ++ ['\'']
  | missingOperator => "no operator to build".toList
  | defect d => defectMessage d
  | openCondition => "unterminated condition, expected '\x7d'".toList
  | noRelation => "no relation built".toList
  | unfinished =>
      "unexpected end of input, an operator, condition or operand is unfinished".toList
  | nestedTooDeep limit =>
      "parentheses nested deeper than ".toList ++ Text.ofNat limit ++ " levels".toList
  | treeTooHigh limit =>
      "expression tree deeper than ".toList ++ Text.ofNat limit ++ " levels".toList

/-- An error in an expression. -/
structure ReadError where
  cause : Cause
  /-- The number of characters of the text at hand before the place. -/
  position : Nat
  /-- The character at the place, if the error lies in it. -/
  found : Option Char
  mode : Mode
  deriving DecidableEq, Repr

/-- The text of an error: its cause, its place and the mode. -/
def ReadError.message (e : ReadError) : Text :=
  e.cause.message ++ " at position ".toList ++ Text.ofNat e.position ++
    (match e.found with
      | some c => " (found '".toList ++ [c] ++ "')".toList
      | none => []) ++
    " in ".toList ++ e.mode.word ++ " mode".toList

end RelQuery.Syntax
