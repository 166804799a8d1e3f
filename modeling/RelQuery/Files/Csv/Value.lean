import RelQuery.Condition.Lexeme
import RelQuery.Files.Csv.Field
import RelQuery.Table.Frame
import RelQuery.Text.CaseFold
import RelQuery.Text.DecimalDigit

/-!
# Values of comma-separated values

The fields of a column suggest its type (`columnType`), and then each field is read as a value of
that type (`fieldCell`). A field may suggest a type and still not be a value of it: the digits of all
scripts suggest numbers, and only ASCII digits are read as numbers. An empty field is a missing cell.
-/

namespace RelQuery.Csv

/-- Why texts are no table. -/
inductive CsvError where
  /-- There is no line at all. -/
  | empty
  /-- A row has more fields than there are columns. -/
  | tooManyFields
  /-- A quote that opens a field does not close it. -/
  | badQuotes
  /-- A field does not fit the type of its column. -/
  | badValue
  /-- There are not as many rows as lines. -/
  | badLines
  /-- The tables have different columns. -/
  | differentColumns
  deriving DecidableEq, Repr

/-- A text without a sign in front, and whether the sign is a minus. -/
def cutSign (text : Text) : Bool × Text :=
  match text with
  | '-' :: rest => (true, rest)
  | '+' :: rest => (false, rest)
  | _ => (false, text)

/-- Whether a text consists of digits of any script, one at least. -/
def isDigits (text : Text) : Bool :=
  !text.isEmpty && text.all Text.isDecimalDigit

/-- Whether a field suggests integers: digits behind a minus sign at most. -/
def isInt (text : Text) : Bool :=
  isDigits (Condition.minus text).2

/-- Whether a text is an exponent. -/
def isExponent : Text → Bool
  | e :: rest => e.toLower = 'e' && isDigits (cutSign rest).2
  | [] => false

/-- Whether a field suggests numbers of double precision. Digits alone do not, and an exponent
behind a point needs digits between them. -/
def isFloat (text : Text) : Bool :=
  let (_, unsigned) := cutSign text
  let whole := unsigned.takeWhile Text.isDecimalDigit
  if unsigned = "inf".toList ∨ unsigned = "NaN".toList then true
  else
    match unsigned.dropWhile Text.isDecimalDigit with
    | '.' :: fraction =>
        let behind := fraction.dropWhile Text.isDecimalDigit
        if fraction.head?.any Text.isDecimalDigit then behind.isEmpty || isExponent behind
        else !whole.isEmpty && fraction.isEmpty
    | behind => !whole.isEmpty && isExponent behind

/-- Whether a field suggests truth values, in any letter case. The long s is a letter s too. -/
def isTruth (text : Text) : Bool :=
  let folded := text.map Text.foldCase
  folded = "true".toList || folded = "false".toList

/-- The type that a field suggests. -/
def fieldType (field : Text) : Dtype :=
  let text := inside field
  if isTruth text then .boolean
  else if isFloat text then .float64
  else if isInt text then .int64
  else .text

/-- The type of a column from its fields. Integers and numbers of double precision together make
the latter; all other mixtures are text, and so are no fields. -/
def columnType (fields : List Text) : Dtype :=
  match (fields.filter fun field => !field.isEmpty).map fieldType with
  | [] => .text
  | first :: rest =>
      if rest.all (· = first) then first
      else if (first :: rest).all fun dtype => dtype = .int64 || dtype = .float64 then .float64
      else .text

/-- The exponent that a text consists of, and zero for no text. -/
def exponent? (text : Text) : Option Int :=
  match text with
  | [] => some 0
  | e :: rest =>
      let (down, digits) := cutSign rest
      if e.toLower = 'e' ∧ !digits.isEmpty ∧ digits.all Char.isDigit then
        let size : Int := Text.digitsValue digits
        some (if down then -size else size)
      else none

/-- The number of double precision that a text stands for: digits with a point before, among or
behind them and an exponent; or infinity, or no number. -/
def float? (text : Text) : Option Binary64 :=
  let (negative, unsigned) := cutSign text
  let lower := unsigned.map Char.toLower
  if lower = "inf".toList ∨ lower = "infinity".toList then some (.infinity negative)
  else if lower = "nan".toList then some .nan
  else
    let whole := unsigned.takeWhile Char.isDigit
    let behind := unsigned.dropWhile Char.isDigit
    let (fraction, behind) := match behind with
      | '.' :: rest => (rest.takeWhile Char.isDigit, rest.dropWhile Char.isDigit)
      | _ => ([], behind)
    let digits := whole ++ fraction
    if digits.isEmpty then none
    else (exponent? behind).map fun exponent =>
      .ofDecimal negative (Text.digitsValue digits) (exponent - fraction.length)

/-- The integer of 64 bits that a text stands for. -/
def int? (text : Text) : Option Int :=
  let (negative, digits) := cutSign text
  let size : Int := Text.digitsValue digits
  let value := if negative then -size else size
  if !digits.isEmpty && digits.all Char.isDigit && Condition.isInt64 value then some value else none

/-- The truth value that a text stands for, in any letter case. -/
def truth? (text : Text) : Option Bool :=
  let lower := text.map Char.toLower
  if lower = "true".toList then some true
  else if lower = "false".toList then some false
  else none

/-- A number in a field, where blanks in front are passed over. Nothing but blanks is missing. -/
def numberCell (read : Text → Option Cell) (text : Text) : Except CsvError Cell :=
  match read text with
  | some cell => .ok cell
  | none =>
      let trimmed := text.dropWhile fun c => c = ' ' || c = '\t'
      if trimmed.isEmpty then .ok .missing
      else
        match read trimmed with
        | some cell => .ok cell
        | none => .error .badValue

/-- The cell that a field stands for in a column of a type. -/
def fieldCell (dtype : Dtype) (field : Text) : Except CsvError Cell :=
  if field.isEmpty then .ok .missing
  else
    match dtype with
    | .int32 => numberCell (fun text => (int? text).map .int) (inside field)
    | .int64 => numberCell (fun text => (int? text).map .int) (inside field)
    | .float64 => numberCell (fun text => (float? text).map .float) (inside field)
    | .boolean =>
        let text := inside field
        match truth? text with
        | some b => .ok (.truth b)
        | none => if text.isEmpty then .ok .missing else .error .badValue
    | .text =>
        if isQuoted field then
          if 2 ≤ field.length ∧ field.getLast? = some '"' then
            .ok (.text (undouble false (inside field)))
          else .error .badQuotes
        else .ok (.text field)

/-- The type of a column that holds the values of two types: text takes all of them, and otherwise
the wider one wins. -/
def widerType (a b : Dtype) : Dtype :=
  if a = b then a
  else if a = .text ∨ b = .text then .text
  else if a = .float64 ∨ b = .float64 then .float64
  else if a = .int64 ∨ b = .int64 then .int64
  else .int32

end RelQuery.Csv
