import RelQuery.Binary64

/-!
# Predicates

A predicate combines comparisons of two operands by `and`, `or` and `not`. What a bare word means
is left open: it is a column where there is one of that name, and text elsewhere.
-/

namespace RelQuery.Condition

/-- A value written in a condition. -/
inductive Literal where
  | text (value : Text)
  | int (value : Int)
  | float (value : Binary64)
  | truth (value : Bool)
  deriving DecidableEq, Repr

/-- One side of a comparison. -/
inductive Operand where
  | word (word : Text)
  | literal (value : Literal)
  deriving DecidableEq, Repr

/-- The six comparisons. -/
inductive Comparison where
  | eq
  | ne
  | lt
  | le
  | gt
  | ge
  deriving DecidableEq, Repr

/-- Whether a comparison holds of two values that are ordered so. -/
def Comparison.holds : Comparison → Ordering → Bool
  | eq, order => order == .eq
  | ne, order => order != .eq
  | lt, order => order == .lt
  | le, order => order != .gt
  | gt, order => order == .gt
  | ge, order => order != .lt

/-- A predicate. -/
inductive Predicate where
  | compare (op : Comparison) (lhs rhs : Operand)
  | and (lhs rhs : Predicate)
  | or (lhs rhs : Predicate)
  | not (inner : Predicate)
  deriving DecidableEq, Repr

end RelQuery.Condition
