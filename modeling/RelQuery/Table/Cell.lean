import RelQuery.Condition.Predicate

/-!
# Cells

A cell holds a value or is missing. Two relations between cells matter and they differ on missing
ones: `key` decides which rows are repetitions of each other, and there missing equals missing;
`compare?` decides comparisons, and there a missing side leaves the outcome open. Both take every
NaN as equal to every other and greater than all numbers, and the two zeros as equal.
-/

namespace RelQuery

/-- The types of columns. -/
inductive Dtype where
  | int32
  | int64
  | float64
  | boolean
  | text
  deriving DecidableEq, Repr

namespace Dtype

/-- The name of a type. -/
def word : Dtype → Text
  | int32 => "i32".toList
  | int64 => "i64".toList
  | float64 => "f64".toList
  | boolean => "bool".toList
  | text => "str".toList

/-- Whether the values are numbers. -/
def isNumeric : Dtype → Bool
  | int32 | int64 | float64 => true
  | boolean | text => false

/-- Whether the values are integers. -/
def isInteger : Dtype → Bool
  | int32 | int64 => true
  | float64 | boolean | text => false

/-- Values of all types can be compared, except text with numbers. -/
def comparable (a b : Dtype) : Bool :=
  !(a = text && b.isNumeric || a.isNumeric && b = text)

/-- Columns of two types can be matched if the types are equal or both of integers. -/
def matchable (a b : Dtype) : Bool :=
  a = b || a.isInteger && b.isInteger

end Dtype

/-- A value in a table, or none. -/
inductive Cell where
  | missing
  | int (value : Int)
  | float (value : Binary64)
  | truth (value : Bool)
  | text (value : Text)
  deriving DecidableEq, Repr, Inhabited

namespace Cell

/-- What a cell is equal to: a number's place in the order instead of its bits. -/
inductive Key where
  | missing
  | int (value : Int)
  | float (rank : Int)
  | truth (value : Bool)
  | text (value : Text)
  deriving DecidableEq, Repr

/-- Cells with equal keys are repetitions of each other. -/
def key : Cell → Key
  | missing => .missing
  | int n => .int n
  | float x => .float x.rank
  | truth b => .truth b
  | text s => .text s

/-- Whether two cells match in a join: they are repetitions of each other and not missing. -/
def matching (a b : Cell) : Bool :=
  a.key ≠ .missing && a.key = b.key

/-- Zero and one for the truth values. -/
def ofTruth (b : Bool) : Int :=
  if b then 1 else 0

/-- The word for a truth value. -/
def truthWord (b : Bool) : Text :=
  (if b then "true" else "false").toList

/-- An integer and a number of double precision compare as numbers of double precision. -/
def compareMixed (n : Int) (x : Binary64) : Ordering :=
  compare (Binary64.ofInt n).rank x.rank

/-- How two values are ordered, if neither is missing. Truth values count as numbers beside numbers
and as words beside text. -/
def compare? : Cell → Cell → Option Ordering
  | int a, int b => some (compare a b)
  | int a, float b => some (compareMixed a b)
  | int a, truth b => some (compare a (ofTruth b))
  | float a, int b => some (compareMixed b a).swap
  | float a, float b => some (compare a.rank b.rank)
  | float a, truth b => some (compareMixed (ofTruth b) a).swap
  | truth a, int b => some (compare (ofTruth a) b)
  | truth a, float b => some (compareMixed (ofTruth a) b)
  | truth a, truth b => some (compare (ofTruth a) (ofTruth b))
  | truth a, text b => some (Text.compare (truthWord a) b)
  | text a, truth b => some (Text.compare a (truthWord b))
  | text a, text b => some (Text.compare a b)
  | _, _ => none

end Cell

end RelQuery
