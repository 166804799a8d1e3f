import RelQuery.Binary64.Decimal
import RelQuery.Table.Box
import RelQuery.Table.Frame

/-!
# Frames as text

A frame is drawn with box characters: its shape, then a box with the names and types of the columns
above the rows. Of a long frame the first and the last rows are shown, and likewise the columns of a
wide one; long texts are cut.
-/

namespace RelQuery.Frame

/-- How much of a frame is shown. -/
structure Limits where
  /-- More rows than these are not all shown, but so many of them. -/
  rows : Nat
  /-- More columns than these are not all shown, but so many of them. -/
  columns : Nat
  /-- How many characters of a text are shown. -/
  text : Nat

/-- Ten rows, eight columns, thirty characters. -/
def limits : Limits := ⟨10, 8, 30⟩

/-- The mark for what is not shown. -/
def ellipsis : Text := ['…']

/-- Digits behind a point without the zeros at the end, one digit at least. -/
def trimFraction (text : Text) : Text :=
  let trimmed := (text.reverse.dropWhile (· = '0')).reverse
  if trimmed.getLast? = some '.' then trimmed ++ ['0'] else trimmed

/-- A number of double precision. Whole numbers below 999999 have one zero behind the point.
Other numbers are written in full if nine characters are enough for that; else with six places, or,
from a million on and below a millionth, in scientific notation with four places. -/
def floatText (x : Binary64) : Text :=
  if x.isNaN then "NaN".toList
  else if x.isInfinite then x.signed "inf".toList
  else
    let (numerator, denominator) := x.ratio
    let whole := numerator % denominator = 0
    let full := x.signed x.shortest.positional
    if whole ∧ numerator < 999999 * denominator then
      x.signed (Binary64.toPlaces 1 x).positional
    else if 9 < full.length then
      if numerator * 1000000 < denominator ∨ 999999 * denominator < numerator then
        x.signed (Binary64.toDigits 4 x).scientific
      else x.signed (trimFraction (Binary64.toPlaces 6 x).positional)
    else if whole then x.signed x.shortest.scientific
    else full

/-- A text, or its beginning and a mark. -/
def clip (limit : Nat) (text : Text) : Text :=
  if limit < text.length then text.take limit ++ ellipsis else text

/-- The text of a cell. -/
def cellText : Cell → Text
  | .missing => "null".toList
  | .int n => Text.ofInt n
  | .float x => floatText x
  | .truth b => Cell.truthWord b
  | .text s => clip limits.text s

/-- The elements of a list, or the first and the last ones with a mark between them. -/
def elide (limit : Nat) (mark : α) (items : List α) : List α :=
  if limit < items.length then
    items.take ((limit + 1) / 2) ++ mark :: items.drop (items.length - limit / 2)
  else items

/-- A natural number with its digits in groups of three. -/
def groupedNat (n : Nat) : Text :=
  let digits := (Text.ofNat n).reverse
  let groups := (List.range ((digits.length + 2) / 3)).map fun i => (digits.drop (3 * i)).take 3
  (Text.joinWith ['_'] groups).reverse

/-- An estimate of a text's width: the number of characters of ASCII text, and otherwise the number
of bytes in UTF-8, but not more than two for each character. The bytes are computed as those of an
average character times the characters, in double precision, so there may be one more. -/
def estimatedWidth (text : Text) : Nat :=
  let characters := text.length
  let bytes := Text.utf8Length text
  if bytes = characters then characters
  else
    let (numerator, denominator) := (Binary64.ofRatio false bytes characters).ratio
    let (total, unit) := (Binary64.ofRatio false (characters * numerator) denominator).ratio
    min (2 * characters) ((total + unit - 1) / unit)

/-- The greatest of the estimated widths. -/
def estimatedWidest (texts : List Text) : Nat :=
  (texts.map estimatedWidth).foldl max 0

/-- Up to this width a column is as wide as it seems to need. -/
def narrow : Nat := 5

/-- How wide a column should be, from what it seems to need. Of a long frame some cells are not
shown, so there nothing is exact. -/
def wish (long : Bool) (need : Nat) : Box.Wish :=
  let need := min (limits.text + 1 + Box.padding) need
  if narrow < need then .between narrow need
  else if long then .between need narrow
  else .exactly need

/-- The column of a box for a column of a frame, with a mark where cells are not shown: a name, a
rule and a type above the cells. -/
def boxColumn (long : Bool) (column : Column) (cells : List (Option Text)) : Box.Column :=
  let header := [clip limits.text column.name, "---".toList, column.dtype.word]
  let need := max (estimatedWidest header) (estimatedWidest (cells.filterMap id))
  { header := header.flatMap (Text.splitOn '\n')
    cells := cells.map fun cell => Text.splitOn '\n' (cell.getD ellipsis)
    wish := wish long (need + Box.padding) }

/-- The column of a box that stands for columns that are not shown. -/
def elidedColumn (long : Bool) (height : Nat) : Box.Column :=
  { header := [ellipsis]
    cells := List.replicate height [ellipsis]
    wish := wish long (ellipsis.length + Box.padding) }

/-- The frame as text, with a line end behind each line. -/
def toText (frame : Frame) : Text :=
  let long := limits.rows < frame.height
  let rows := elide limits.rows none (frame.rows.map some)
  let columns := frame.schema.zipIdx.map fun (column, i) =>
    boxColumn long column (rows.map fun row => row.map fun cells =>
      cellText ((cells[i]?).getD .missing))
  "shape: (".toList ++ groupedNat frame.height ++ ", ".toList ++
    groupedNat frame.schema.length ++ [')', '\n'] ++
    Box.toText rows.length (elide limits.columns (elidedColumn long rows.length) columns)

end RelQuery.Frame
