import RelQuery.Files.Csv.Value

/-!
# Comma-separated values

The first line of a text names the columns and each further line is a row. The first hundred lines
below the header decide the types of the columns. A row may be short, and an empty line is the
shortest: what it lacks is missing. Several texts make one table if they have the same columns.
-/

namespace RelQuery.Csv

/-- A text without a byte-order mark in front. -/
def dropMark (text : Text) : Text :=
  if text.head? = some '\uFEFF' then text.tail else text

/-- A line without the carriage return of its line end. A carriage return alone is text. -/
def trimLine (line : Text) : Text :=
  if 1 < line.length then dropReturn line else line

/-- The columns' names, when a name that was used before gets a number. -/
def columnNames (used : List Text) : List Text → List Text
  | [] => []
  | name :: names =>
      let count := used.count name
      let unique :=
        if count = 0 then name
        else name ++ "_duplicated_".toList ++ Text.ofNat (count - 1)
      unique :: columnNames (name :: used) names

/-- Puts a column into a schema: over the one of its name, or else behind the last. -/
def putColumn (column : Column) : Schema → Schema
  | [] => [column]
  | other :: schema =>
      if other.name = column.name then column :: schema else other :: putColumn column schema

/-- How many lines decide the types of the columns. -/
def typedLines : Nat := 100

/-- The schema that a header and the lines below it suggest. A made-up name may repeat a given one;
then they are one column. -/
def schemaOfLines (header : Text) (below : List Text) : Schema :=
  let names := columnNames [] ((fieldsOf (trimLine header)).map inside)
  let sample := ((below.take typedLines).filter fun line => !line.isEmpty).map fun line =>
    fieldsOf (trimLine line)
  let columns := names.zipIdx.map fun (name, i) =>
    ⟨name, columnType (sample.map fun fields => (fields[i]?).getD [])⟩
  columns.foldl (fun schema column => putColumn column schema) []

/-- The schema that a text suggests. A header with nothing behind it, not even a line end, is read
with a line end behind it; inside open quotes that is text. -/
def schemaOf (text : Text) : Except CsvError Schema :=
  let body := (dropMark text).dropWhile isLineEnd
  if Text.utf8Length text < 2 then .error .empty
  else
    match lines body with
    | [] => .error .empty
    | [header] =>
        if body.getLast? = some '\n' then .ok (schemaOfLines header [])
        else
          match lines (body ++ ['\n']) with
          | [] => .error .empty
          | header :: below => .ok (schemaOfLines header below)
    | header :: below => .ok (schemaOfLines header below)

/-- The row that fields stand for. A comma at the very end of the text begins no further field. -/
def rowOf (types : List Dtype) (record : Record) : Except CsvError Row :=
  let extra := record.fields.drop types.length
  if extra.isEmpty ∨ (extra = [[]] ∧ !record.ended) then
    types.zipIdx.mapM fun (dtype, i) => fieldCell dtype (dropReturn ((record.fields[i]?).getD []))
  else .error .tooManyFields

/-- The text below the header. Empty lines in front of the header are passed over if there are two
columns; if there is one, the first of them is the header's line. -/
def below (schema : Schema) (text : Text) : Text :=
  let text := dropMark text
  dropLine false (if schema.length = 1 then text else text.dropWhile isLineEnd)

/-- The rows of a text, when the columns are known. -/
def rowsOf (schema : Schema) (text : Text) : Except CsvError (List Row) := do
  let below := below schema text
  let rows ← (records below).mapM (rowOf (schema.map Column.dtype))
  if rows.length = lineCount below then .ok rows else .error .badLines

/-- The schema of a table that holds the rows of two tables. -/
def mergeSchemas (left right : Schema) : Except CsvError Schema :=
  if left.names = right.names then
    .ok ((left.zip right).map fun (a, b) => ⟨a.name, widerType a.dtype b.dtype⟩)
  else .error .differentColumns

/-- Reads the table that texts make together: the rows of the first one, then those of the second
one, and so on. -/
def read (texts : List Text) : Except CsvError Frame := do
  match ← texts.mapM schemaOf with
  | [] => .error .empty
  | first :: others =>
      let schema ← others.foldlM mergeSchemas first
      let rows ← texts.mapM (rowsOf schema)
      .ok ⟨schema, rows.flatten⟩

end RelQuery.Csv
