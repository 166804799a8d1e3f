import RelQuery.Text
import RelQuery.Text.Alphanumeric

/-!
# Operators

The eight operators of relational algebra, each with its symbol, its word and the shape of its
operands. The symbols are distinct and none of them may occur in a relation name.
-/

namespace RelQuery

/-- The operands that an operator takes. -/
inductive Category where
  /-- Two operands over the same columns. -/
  | set
  /-- One operand behind the operator, and a condition. -/
  | unary
  /-- Two operands, and a condition if one is wanted. -/
  | join
  deriving DecidableEq, Repr

/-- The operators of relational algebra. -/
inductive Operator where
  | select
  | project
  | union
  | intersect
  | difference
  | naturalJoin
  | cartesian
  | thetaJoin
  deriving DecidableEq, Repr

namespace Operator

/-- All operators: unary ones first, then set operators, then joins. -/
def all : List Operator :=
  [select, project, union, intersect, difference, naturalJoin, cartesian, thetaJoin]

/-- The character that stands for the operator in an expression. -/
def symbol : Operator → Char
  | select => 'σ'
  | project => 'π'
  | union => '∪'
  | intersect => '∩'
  | difference => '−'
  | naturalJoin => '⋈'
  | cartesian => '×'
  | thetaJoin => 'θ'

/-- The operator that a character stands for. -/
def ofSymbol? (c : Char) : Option Operator :=
  all.find? fun op => op.symbol = c

/-- The operands that the operator takes. -/
def category : Operator → Category
  | select | project => .unary
  | union | intersect | difference => .set
  | naturalJoin | cartesian | thetaJoin => .join

/-- The word for the operator in messages, logs and outlines. -/
def word : Operator → Text
  | select => "select".toList
  | project => "project".toList
  | union => "union".toList
  | intersect => "intersect".toList
  | difference => "difference".toList
  | naturalJoin => "join".toList
  | cartesian => "cross".toList
  | thetaJoin => "theta-join".toList

/-- The name of the operator in data. -/
def identifier : Operator → Text
  | select => "Select".toList
  | project => "Project".toList
  | union => "Union".toList
  | intersect => "Intersect".toList
  | difference => "Difference".toList
  | naturalJoin => "NaturalJoin".toList
  | cartesian => "Cartesian".toList
  | thetaJoin => "ThetaJoin".toList

/-- The operator with that name in data. -/
def ofIdentifier? (name : Text) : Option Operator :=
  all.find? fun op => op.identifier = name

/-- Every operator is found by its symbol. -/
theorem ofSymbol?_symbol (op : Operator) : ofSymbol? op.symbol = some op := by
  cases op <;> decide

/-- The list has all operators. -/
theorem mem_all (op : Operator) : op ∈ all := by
  cases op <;> decide

end Operator

/-- The characters of relation names: letters and numerals of any script, except those that are
operator symbols. -/
def isNameChar (c : Char) : Bool :=
  Text.isAlphanumeric c && (Operator.ofSymbol? c).isNone

/-- A relation name that an expression can mention: not empty, and made of name characters. -/
def isRelationName (name : Text) : Bool :=
  !name.isEmpty && name.all isNameChar

end RelQuery
