import RelQuery.Condition.Predicate
import RelQuery.Text.Alphanumeric

/-!
# The smallest parts of a predicate

Blanks, keywords, connectives, comparison signs and operands. Each reader is given the text at hand
and returns what follows the part it read, or nothing if the text does not begin with such a part.
A keyword and a number end where no word goes on.
-/

namespace RelQuery.Condition

/-- The characters of bare words. -/
def isWordChar (c : Char) : Bool :=
  Text.isAlphanumeric c || c = '_'

/-- The blanks that may separate the parts of a predicate. -/
def isSpace (c : Char) : Bool :=
  c = ' ' || c = '\t' || c = '\r' || c = '\n'

/-- The text without the blanks in front that separate parts. -/
def skipSpace (text : Text) : Text :=
  text.dropWhile isSpace

/-- Whether no word goes on at the beginning of a text. -/
def atWordEnd (text : Text) : Bool :=
  !text.head?.any isWordChar

/-- What follows a lower-case word that is written in any letter case. -/
def stripCaseless? : (word text : Text) → Option Text
  | [], text => some text
  | _ :: _, [] => none
  | w :: word, c :: text => if c.toLower = w then stripCaseless? word text else none

/-- What follows a keyword. -/
def keyword? (word : String) (text : Text) : Option Text :=
  (stripCaseless? word.toList text).filter atWordEnd

/-- What follows a sign. -/
def sign? (sign : String) (text : Text) : Option Text :=
  Text.strip? sign.toList text

/-- Reads `or`, `||` or `|`. -/
def orMark? (text : Text) : Option Text :=
  keyword? "or" text <|> sign? "||" text <|> sign? "|" text

/-- Reads `and`, `&&` or `&`. -/
def andMark? (text : Text) : Option Text :=
  keyword? "and" text <|> sign? "&&" text <|> sign? "&" text

/-- Reads `not` or `!`. The sign `!=` is no negation. -/
def notMark? (text : Text) : Option Text :=
  keyword? "not" text <|> (sign? "!" text).filter (·.head? ≠ some '=')

/-- The spellings of the comparisons. One that begins another comes after it. -/
def comparisonSigns : List (String × Comparison) :=
  [("==", .eq), ("!=", .ne), ("<>", .ne), ("<=", .le), (">=", .ge), ("=", .eq), ("<", .lt),
   (">", .gt)]

/-- Reads a comparison sign. -/
def comparison? (text : Text) : Option (Comparison × Text) :=
  comparisonSigns.findSome? fun (sign, op) => (sign? sign text).map fun rest => (op, rest)

/-- Reads a minus sign if there is one. -/
def minus (text : Text) : Bool × Text :=
  match text with
  | '-' :: rest => (true, rest)
  | _ => (false, text)

/-- Reads one or more decimal digits. -/
def digits? (text : Text) : Option (Text × Text) :=
  if text.head?.any Char.isDigit then
    some (text.takeWhile Char.isDigit, text.dropWhile Char.isDigit)
  else none

/-- The integers of 64 bits with a sign. -/
def isInt64 (n : Int) : Bool :=
  -0x8000000000000000 ≤ n && n < 0x8000000000000000

/-- Reads digits, a point and digits as a number of double precision. -/
def float? (text : Text) : Option (Literal × Text) := do
  let (negative, unsigned) := minus text
  let (whole, rest) ← digits? unsigned
  let (fraction, rest) ← digits? (← sign? "." rest)
  let value := Binary64.ofDecimal negative (Text.digitsValue (whole ++ fraction)) (-fraction.length)
  some (.float value, rest)

/-- Reads digits as an integer of 64 bits; a greater one is not read. -/
def int? (text : Text) : Option (Literal × Text) := do
  let (negative, unsigned) := minus text
  let (digits, rest) ← digits? unsigned
  let size : Int := Text.digitsValue digits
  let value := if negative then -size else size
  if isInt64 value then some (.int value, rest) else none

/-- Reads a number. One that a word goes on behind is none. -/
def number? (text : Text) : Option (Literal × Text) :=
  (float? text <|> int? text).filter fun (_, rest) => atWordEnd rest

/-- Reads text between two equal quotes. There is no way to write the quote inside. -/
def quotedText? (text : Text) : Option (Literal × Text) :=
  match text with
  | '\'' :: rest => (Text.cut? '\'' rest).map fun (body, rest) => (.text body, rest)
  | '"' :: rest => (Text.cut? '"' rest).map fun (body, rest) => (.text body, rest)
  | _ => none

/-- Reads a truth value. -/
def truth? (text : Text) : Option (Literal × Text) :=
  (keyword? "true" text).map (fun rest => (.truth true, rest)) <|>
    (keyword? "false" text).map (fun rest => (.truth false, rest))

/-- Reads a bare word. -/
def word? (text : Text) : Option (Text × Text) :=
  if text.head?.any isWordChar then
    some (text.takeWhile isWordChar, text.dropWhile isWordChar)
  else none

/-- Reads an operand: a number, text in quotes, a truth value, or else a bare word. -/
def operand? (text : Text) : Option (Operand × Text) :=
  ((number? text <|> quotedText? text <|> truth? text).map fun (value, rest) =>
      (.literal value, rest)) <|>
    (word? text).map fun (word, rest) => (.word word, rest)

end RelQuery.Condition
