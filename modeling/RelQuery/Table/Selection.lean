import RelQuery.Table.Frame

/-!
# Conditions on rows

A predicate is evaluated on a row in three-valued logic: a comparison with a missing cell has no
outcome, and a connective has one if the known sides decide it. A bare word is the cell of the
column of that name if there is one, and text otherwise.
-/

namespace RelQuery.Condition

/-- The type of a literal's value. -/
def Literal.dtype : Literal → Dtype
  | text _ => .text
  | int _ => .int64
  | float _ => .float64
  | truth _ => .boolean

/-- The literal as a cell. -/
def Literal.cell : Literal → Cell
  | text s => .text s
  | int n => .int n
  | float x => .float x
  | truth b => .truth b

/-- The type of an operand over a frame's columns. -/
def Operand.dtype (schema : Schema) : Operand → Dtype
  | word w =>
      match schema.column? w with
      | some column => column.dtype
      | none => .text
  | literal value => value.dtype

/-- The value of an operand on a row. -/
def Operand.cell (schema : Schema) (row : Row) : Operand → Cell
  | word w => if schema.names.contains w then row.cell schema w else .text w
  | literal value => value.cell

/-- Negation in three-valued logic. -/
def notKnown : Option Bool → Option Bool :=
  Option.map (!·)

/-- Conjunction in three-valued logic: one false side decides. -/
def andKnown : Option Bool → Option Bool → Option Bool
  | some false, _ => some false
  | _, some false => some false
  | some true, some true => some true
  | _, _ => none

/-- Disjunction in three-valued logic: one true side decides. -/
def orKnown : Option Bool → Option Bool → Option Bool
  | some true, _ => some true
  | _, some true => some true
  | some false, some false => some false
  | _, _ => none

namespace Predicate

/-- Whether all operands that are compared have comparable types. -/
def comparable (schema : Schema) : Predicate → Bool
  | compare _ lhs rhs => (lhs.dtype schema).comparable (rhs.dtype schema)
  | and lhs rhs => lhs.comparable schema && rhs.comparable schema
  | or lhs rhs => lhs.comparable schema && rhs.comparable schema
  | not inner => inner.comparable schema

/-- The outcome of a predicate on a row, if it has one. -/
def outcome (schema : Schema) (row : Row) : Predicate → Option Bool
  | compare op lhs rhs => ((lhs.cell schema row).compare? (rhs.cell schema row)).map op.holds
  | and lhs rhs => andKnown (lhs.outcome schema row) (rhs.outcome schema row)
  | or lhs rhs => orKnown (lhs.outcome schema row) (rhs.outcome schema row)
  | not inner => notKnown (inner.outcome schema row)

/-- Whether a selection keeps a row: only where the predicate is true. -/
def keeps (schema : Schema) (predicate : Predicate) (row : Row) : Bool :=
  predicate.outcome schema row = some true

end Predicate

end RelQuery.Condition
