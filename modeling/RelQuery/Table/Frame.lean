import RelQuery.Table.Cell

/-!
# Frames

A frame is a table: columns with names and types, and rows of cells in the order of the columns. Its
operations are those of relational algebra on lists of rows, and each says how it orders its result.
-/

namespace RelQuery

/-- A column's name and type. -/
structure Column where
  name : Text
  dtype : Dtype
  deriving DecidableEq, Repr

/-- The columns of a frame from left to right. -/
abbrev Schema := List Column

/-- The cells of a row in the order of the columns. -/
abbrev Row := List Cell

namespace Schema

/-- The names of the columns. -/
def names (schema : Schema) : List Text :=
  schema.map Column.name

/-- The column of that name. -/
def column? (schema : Schema) (name : Text) : Option Column :=
  schema.find? fun column => column.name = name

/-- The columns with the given names, in the order of the names. -/
def select (schema : Schema) (names : List Text) : Schema :=
  names.filterMap schema.column?

/-- The columns whose names are not among the given ones. -/
def without (schema : Schema) (names : List Text) : Schema :=
  schema.filter fun column => !names.contains column.name

/-- The columns of the right side of a product: a name that the left side has gets `_right`. -/
def besides (left right : Schema) : Schema :=
  right.map fun column =>
    if left.names.contains column.name then
      { column with name := column.name ++ "_right".toList }
    else column

/-- Whether no name occurs twice. -/
def distinctNames (schema : Schema) : Bool :=
  schema.names.Nodup

end Schema

/-- A table. -/
structure Frame where
  schema : Schema
  rows : List Row
  deriving DecidableEq, Repr, Inhabited

/-- The cell of a row in the column of that name. -/
def Row.cell (row : Row) (schema : Schema) (name : Text) : Cell :=
  (row[schema.names.idxOf name]?).getD .missing

/-- The cells of a row in the columns of those names. -/
def Row.cells (row : Row) (schema : Schema) (names : List Text) : Row :=
  names.map (row.cell schema)

/-- What a row is equal to. -/
def Row.key (row : Row) : List Cell.Key :=
  row.map Cell.key

/-- The first of the rows that are repetitions of each other, in their order, unless they repeat a
row seen before. -/
def distinctRows (seen : List (List Cell.Key)) : List Row → List Row
  | [] => []
  | row :: rows =>
      if seen.contains row.key then distinctRows seen rows
      else row :: distinctRows (row.key :: seen) rows

namespace Frame

/-- The number of rows. -/
def height (frame : Frame) : Nat := frame.rows.length

/-- The frame with those rows for which the test is true. -/
def filter (test : Row → Bool) (frame : Frame) : Frame :=
  { frame with rows := frame.rows.filter test }

/-- The columns of those names, in the order of the names. Without columns there are no rows. -/
def select (names : List Text) (frame : Frame) : Frame :=
  { schema := frame.schema.select names
    rows := if names.isEmpty then [] else frame.rows.map fun row => row.cells frame.schema names }

/-- The frame without repetitions; of equal rows the first is kept. -/
def distinct (frame : Frame) : Frame :=
  { frame with rows := distinctRows [] frame.rows }

/-- The rows of one frame and then those of another with the same columns, which are put in the order
of the first. -/
def append (left right : Frame) : Frame :=
  { left with rows := left.rows ++ (right.select left.schema.names).rows }

/-- Whether a row of one frame matches a row of another one in all the columns of those names. -/
def rowsMatch (names : List Text) (left right : Schema) (a b : Row) : Bool :=
  names.all fun name => (a.cell left name).matching (b.cell right name)

/-- Whether a row matches some row of the other frame. -/
def hasMatch (names : List Text) (left right : Frame) (row : Row) : Bool :=
  right.rows.any fun other => rowsMatch names left.schema right.schema row other

/-- The rows that match some row of the other frame. -/
def semiJoin (names : List Text) (left right : Frame) : Frame :=
  left.filter (hasMatch names left right)

/-- The rows that match no row of the other frame. -/
def antiJoin (names : List Text) (left right : Frame) : Frame :=
  left.filter fun row => !hasMatch names left right row

/-- Each row with each row of the other frame that it matches, without repeating the columns that
were matched. -/
def innerJoin (names : List Text) (left right : Frame) : Frame :=
  let others := right.schema.without names
  { schema := left.schema ++ others
    rows := left.rows.flatMap fun a =>
      (right.rows.filter (rowsMatch names left.schema right.schema a)).map fun b =>
        a ++ b.cells right.schema others.names }

/-- Each row with each row of the other frame. -/
def product (left right : Frame) : Frame :=
  { schema := left.schema ++ left.schema.besides right.schema
    rows := left.rows.flatMap fun a => right.rows.map fun b => a ++ b }

end Frame

end RelQuery
