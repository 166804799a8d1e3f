import RelQuery.Regex

/-!
# Reading regular expressions

The usual notation: alternatives between bars, groups in parentheses, sets in brackets with ranges,
nested sets and set operators, repetition marks, anchors, escapes, and flags that hold to the end of
the group they stand in. A text that is not in this notation is no expression.
-/

namespace RelQuery.Regex

/-- How an expression is read. -/
structure Flags where
  ignoreCase : Bool := false
  /-- Lines begin and end where texts do. -/
  lines : Bool := false
  /-- The dot matches line ends too. -/
  dotAll : Bool := false
  /-- Carriage returns end lines too. -/
  returns : Bool := false
  /-- Blanks and comments may stand between the parts. -/
  spaced : Bool := false
  /-- Classes are those of ASCII. -/
  ascii : Bool := false
  deriving DecidableEq, Repr

namespace Flags

/-- Sets or clears the flag of that letter. -/
def set? (flags : Flags) (letter : Char) (value : Bool) : Option Flags :=
  match letter with
  | 'i' => some { flags with ignoreCase := value }
  | 'm' => some { flags with lines := value }
  | 's' => some { flags with dotAll := value }
  | 'R' => some { flags with returns := value }
  | 'x' => some { flags with spaced := value }
  | 'u' => some { flags with ascii := !value }
  | 'U' => some flags
  | _ => none

/-- A set of characters that are named one by one. -/
def named (flags : Flags) (set : CharSet) : CharSet :=
  if flags.ignoreCase then .anyCase set else set

/-- The complement of a set; there is none if sets are those of ASCII. -/
def complement? (flags : Flags) (set : CharSet) : Option CharSet :=
  if flags.ascii then none else some (.complement set)

/-- The set that the dot stands for. -/
def dot? (flags : Flags) : Option CharSet :=
  if flags.dotAll then flags.complement? .none
  else if flags.returns then flags.complement? (.ofRanges [('\n', '\n'), ('\r', '\r')])
  else flags.complement? (.single '\n')

/-- The set of a class that has a letter. -/
def class? (flags : Flags) (letter : Char) : Option CharSet :=
  let digit := if flags.ascii then .range '0' '9' else .ofClass .digit
  let blank := if flags.ascii then .asciiBlanks else .ofClass .blank
  let word := if flags.ascii then .asciiWords else .ofClass .word
  match letter with
  | 'd' => some digit
  | 's' => some blank
  | 'w' => some word
  | 'D' => flags.complement? digit
  | 'S' => flags.complement? blank
  | 'W' => flags.complement? word
  | _ => none

end Flags

/-- Passes over blanks and over comments, which begin with a number sign and end with their line. -/
def skipBlanks : (comment : Bool) → Text → Text
  | _, [] => []
  | comment, c :: text =>
      if comment then skipBlanks (c ≠ '\n') text
      else if c = '#' then skipBlanks true text
      else if Text.isBlank c then skipBlanks false text
      else c :: text

/-- The text from where an expression goes on. -/
def Flags.skip (flags : Flags) (text : Text) : Text :=
  if flags.spaced then skipBlanks false text else text

/-- What stands for one character or one place. -/
inductive Primitive where
  | char (c : Char)
  | oneOf (set : CharSet)
  | place (anchor : Anchor)
  deriving DecidableEq, Repr

/-- The expression for a primitive. -/
def Primitive.regex (flags : Flags) : Primitive → Regex
  | char c => .one (flags.named (.single c))
  | oneOf set => .one set
  | place anchor => .place anchor

/-- The value of a hexadecimal digit. -/
def hexDigit? (c : Char) : Option Nat :=
  if '0' ≤ c ∧ c ≤ '9' then some (c.toNat - '0'.toNat)
  else if 'a' ≤ c.toLower ∧ c.toLower ≤ 'f' then some (c.toLower.toNat - 'a'.toNat + 10)
  else none

/-- The character whose code the hexadecimal digits are. -/
def charOfHex? (digits : Text) : Option Char := do
  let values ← digits.mapM hexDigit?
  let code := values.foldl (fun code value => 16 * code + value) 0
  if digits.isEmpty then none
  else if code.isValidChar then some (.ofNat code)
  else none

/-- Reads the code of a character: so many digits, or any number of them in braces. -/
def readHex (size : Nat) (text : Text) : Option (Char × Text) :=
  match text with
  | '\x7b' :: text => do
      let (digits, rest) ← Text.cut? '\x7d' text
      (charOfHex? digits).map fun c => (c, rest)
  | _ =>
      if text.length < size then none
      else (charOfHex? (text.take size)).map fun c => (c, text.drop size)

/-- Reads the name of a property, a letter or a name in braces. -/
def readProperty (text : Text) : Option (CharSet × Text) :=
  match text with
  | '\x7b' :: '^' :: text => do
      let (name, rest) ← Text.cut? '\x7d' text
      (CharSet.property? name).map fun set => (.complement set, rest)
  | '\x7b' :: text => do
      let (name, rest) ← Text.cut? '\x7d' text
      (CharSet.property? name).map fun set => (set, rest)
  | c :: rest => (CharSet.property? [c]).map fun set => (set, rest)
  | [] => none

/-- The anchors with a name in braces. -/
def namedAnchor? (name : Text) : Option Anchor :=
  match String.ofList name with
  | "start" => some .wordStart
  | "end" => some .wordEnd
  | "start-half" => some .wordStartHalf
  | "end-half" => some .wordEndHalf
  | _ => none

/-- Reads what follows the letter of a word edge: the name of a kind of edge in braces, or nothing.
Braces around something else are a repetition. -/
def readWordEdge (text : Text) : Option (Anchor × Text) :=
  match text with
  | ['\x7b'] => none
  | '\x7b' :: c :: rest =>
      if c.isAlpha || c = '-' then do
        let (name, rest) ← Text.cut? '\x7d' (c :: rest)
        (namedAnchor? name).map fun anchor => (anchor, rest)
      else some (.wordEdge, text)
  | _ => some (.wordEdge, text)

/-- Reads what follows a backslash. All ASCII characters may be escaped, except that letters, digits
and angle brackets have other meanings then, or none. -/
def readEscape (flags : Flags) (text : Text) : Option (Primitive × Text) :=
  match text with
  | [] => none
  | c :: rest =>
      match c with
      | 'x' => (readHex 2 rest).map fun (c, rest) => (.char c, rest)
      | 'u' => (readHex 4 rest).map fun (c, rest) => (.char c, rest)
      | 'U' => (readHex 8 rest).map fun (c, rest) => (.char c, rest)
      | 'p' => (readProperty rest).map fun (set, rest) => (.oneOf set, rest)
      | 'P' => (readProperty rest).map fun (set, rest) => (.oneOf (.complement set), rest)
      | 'a' => some (.char '\x07', rest)
      | 'f' => some (.char '\x0c', rest)
      | 't' => some (.char '\t', rest)
      | 'n' => some (.char '\n', rest)
      | 'r' => some (.char '\r', rest)
      | 'v' => some (.char '\x0b', rest)
      | 'A' => some (.place .textStart, rest)
      | 'z' => some (.place .textEnd, rest)
      | 'b' => (readWordEdge rest).map fun (anchor, rest) => (.place anchor, rest)
      | 'B' => some (.place .noWordEdge, rest)
      | '<' => some (.place .wordStart, rest)
      | '>' => some (.place .wordEnd, rest)
      | _ =>
          if c.isAlphanum then (flags.class? c).map fun set => (.oneOf set, rest)
          else if c.toNat < 128 then some (.char c, rest)
          else none

/-- Reads a character, a class, a dot or an anchor. -/
def readPrimitive (flags : Flags) (text : Text) : Option (Primitive × Text) :=
  match text with
  | [] => none
  | '\\' :: rest => readEscape flags rest
  | '.' :: rest => flags.dot?.map fun set => (.oneOf set, rest)
  | '^' :: rest => some (.place (if flags.lines then .lineStart flags.returns else .textStart), rest)
  | '$' :: rest => some (.place (if flags.lines then .lineEnd flags.returns else .textEnd), rest)
  | c :: rest => some (.char c, rest)

/-- Reads a character or a class between brackets. -/
def readMember (flags : Flags) (text : Text) : Option (Primitive × Text) :=
  match text with
  | [] => none
  | '\\' :: rest => readEscape flags rest
  | c :: rest => some (.char c, rest)

/-- Reads a range, a character or a class between brackets. -/
def readRange (flags : Flags) (text : Text) : Option (CharSet × Text) := do
  let (first, rest) ← readMember flags text
  match flags.skip rest, first with
  | '-' :: after, .char a =>
      let after := flags.skip after
      if after.head? = some ']' ∨ after.head? = some '-' then
        some (flags.named (.single a), '-' :: after)
      else
        match readMember flags after with
        | some (.char b, rest) => if a ≤ b then some (flags.named (.range a b), rest) else none
        | _ => none
  | '-' :: after, .oneOf set =>
      let after := flags.skip after
      if after.head? = some ']' ∨ after.head? = some '-' then some (set, '-' :: after) else none
  | rest, .char a => some (flags.named (.single a), rest)
  | rest, .oneOf set => some (set, rest)
  | _, .place _ => none

/-- Reads the name of a set behind its opening bracket. -/
def readNamedSet (flags : Flags) (text : Text) : Option (CharSet × Text) :=
  match text with
  | ':' :: text => do
      let (name, rest) ← Text.cut? ':' text
      let set ← CharSet.ascii? (if name.head? = some '^' then name.tail else name)
      let set := flags.named set
      match rest with
      | ']' :: rest => some (if name.head? = some '^' then .complement set else set, rest)
      | _ => none
  | _ => none

/-- Reads what follows an opening bracket: whether the set is a complement, and the characters that
have no other meaning there, which are dashes or a closing bracket. -/
def readSetStart (flags : Flags) (text : Text) : Bool × CharSet × Text :=
  let text := flags.skip text
  let negated := text.head? = some '^'
  let text := if negated then flags.skip text.tail else text
  let behind := text.dropWhile (· = '-')
  if behind.length < text.length then (negated, .single '-', behind)
  else if text.head? = some ']' then (negated, .single ']', text.tail)
  else (negated, .none, text)

/-- Reads a set to its closing bracket. The members read so far are a union, to which an operator may
have been applied from the left. -/
def readSet (flags : Flags) :
    (fuel : Nat) → (apply : CharSet → CharSet) → (members : CharSet) → Text → Option (CharSet × Text)
  | 0, _, _, _ => none
  | fuel + 1, apply, members, text =>
      match flags.skip text with
      | [] => none
      | ']' :: rest => some (apply members, rest)
      | '&' :: '&' :: rest => readSet flags fuel (.inter (apply members)) .none rest
      | '-' :: '-' :: rest => readSet flags fuel (.difference (apply members)) .none rest
      | '~' :: '~' :: rest => readSet flags fuel (.symmetricDifference (apply members)) .none rest
      | '[' :: rest =>
          match readNamedSet flags rest with
          | some (set, rest) => readSet flags fuel apply (.union members set) rest
          | none => do
              let (negated, start, rest) := readSetStart flags rest
              let (set, rest) ← readSet flags fuel id start rest
              let set ← if negated then flags.complement? set else some set
              readSet flags fuel apply (.union members set) rest
      | text => do
          let (set, rest) ← readRange flags text
          readSet flags fuel apply (.union members set) rest

/-- Reads a set behind its opening bracket. -/
def readBrackets (flags : Flags) (text : Text) : Option (CharSet × Text) := do
  let (negated, start, rest) := readSetStart flags text
  let (set, rest) ← readSet flags (rest.length + 1) id start rest
  let set ← if negated then flags.complement? set else some set
  some (set, rest)

/-- Reads a number of 32 bits, which blanks may surround. -/
def readNumber (text : Text) : Option (Nat × Text) :=
  let text := Text.trimLeft text
  let digits := text.takeWhile Char.isDigit
  let value := Text.digitsValue digits
  if digits.isEmpty ∨ 0x100000000 ≤ value then none
  else some (value, Text.trimLeft (text.dropWhile Char.isDigit))

/-- Reads the numbers of a repetition behind the opening brace. -/
def readCounts (text : Text) : Option ((Nat × Option Nat) × Text) := do
  let (least, rest) ← readNumber text
  match rest with
  | '\x7d' :: rest => some ((least, some least), rest)
  | ',' :: '\x7d' :: rest => some ((least, none), rest)
  | ',' :: rest =>
      match readNumber rest with
      | some (greatest, '\x7d' :: rest) =>
          if least ≤ greatest then some ((least, some greatest), rest) else none
      | _ => none
  | _ => none

/-- Whether a character begins a repetition mark. -/
def isRepetition (c : Char) : Bool :=
  c = '?' || c = '*' || c = '+' || c = '\x7b'

/-- Reads a repetition mark. A question mark behind it says which of several matches is meant, and
that does not matter here. -/
def readRepetition (c : Char) (rest : Text) : Option ((Nat × Option Nat) × Text) := do
  let (counts, rest) ←
    match c with
    | '?' => some ((0, some 1), rest)
    | '*' => some ((0, none), rest)
    | '+' => some ((1, none), rest)
    | _ => readCounts rest
  some (counts, if rest.head? = some '?' then rest.tail else rest)

/-- Reads flags to the closing parenthesis or the colon behind them, and says which of them it was. -/
def readFlags (seen : List Char) (value : Bool) (flags : Flags) : Text → Option (Flags × Char × Text)
  | [] => none
  | c :: text =>
      if c = ':' ∨ c = ')' then
        if seen.head? = some '-' ∨ (c = ')' ∧ seen = []) then none else some (flags, c, text)
      else if seen.contains c then none
      else if c = '-' then readFlags (c :: seen) false flags text
      else
        match flags.set? c value with
        | some flags => readFlags (c :: seen) value flags text
        | none => none

/-- Whether a text may name a group. -/
def isGroupName (name : Text) : Bool :=
  (name.head?.any fun c => c = '_' || Text.isAlphabetic c) &&
    name.all fun c => c = '_' || c = '.' || c = '[' || c = ']' || Text.isAlphanumeric c

/-- What an opening parenthesis begins. -/
inductive Opening where
  /-- A group, maybe with a name. -/
  | group (name : Option Text) (flags : Flags)
  /-- Flags for the rest of the group that they stand in. -/
  | flags (flags : Flags)
  deriving DecidableEq, Repr

/-- Reads the name of a group up to the angle bracket behind it. -/
def readGroupName (flags : Flags) (text : Text) : Option (Opening × Text) :=
  match Text.cut? '>' text with
  | some (name, rest) => if isGroupName name then some (.group (some name) flags, rest) else none
  | none => none

/-- Reads what follows an opening parenthesis. -/
def readOpening (flags : Flags) (text : Text) : Option (Opening × Text) :=
  match flags.skip text with
  | '?' :: 'P' :: '<' :: rest => readGroupName flags rest
  | '?' :: '<' :: rest => readGroupName flags rest
  | '?' :: rest =>
      (readFlags [] true flags rest).map fun (flags, stop, rest) =>
        (if stop = ':' then .group none flags else .flags flags, rest)
  | rest => some (.group none flags, rest)

/-- The parts read so far as one expression, the last one first. Flags stand among them as nothing. -/
def join (parts : List (Option Regex)) : Regex :=
  .ofList (parts.reverse.filterMap id)

/-- Reads an expression up to a closing parenthesis or the end. No two groups have one name, so the
names are kept. -/
def readFrom : (fuel : Nat) → Flags → (names : List Text) → (parts : List (Option Regex)) → Text →
    Option (Regex × List Text × Text)
  | 0, _, _, _, _ => none
  | fuel + 1, flags, names, parts, text =>
      match flags.skip text with
      | [] => some (join parts, names, [])
      | c :: rest =>
          if c = ')' then some (join parts, names, c :: rest)
          else if c = '|' then
            (readFrom fuel flags names [] rest).map fun (other, names, rest) =>
              (.choice (join parts) other, names, rest)
          else if c = '(' then
            match readOpening flags rest with
            | none => none
            | some (.flags flags, rest) => readFrom fuel flags names (none :: parts) rest
            | some (.group name inner, rest) =>
                if name.any names.contains then none
                else
                  match readFrom fuel inner (name.toList ++ names) [] rest with
                  | some (group, names, ')' :: rest) =>
                      readFrom fuel flags names (some group :: parts) rest
                  | _ => none
          else if c = '[' then do
            let (set, rest) ← readBrackets flags rest
            readFrom fuel flags names (some (.one set) :: parts) rest
          else if isRepetition c then do
            let ((least, greatest), rest) ← readRepetition c rest
            match parts with
            | some part :: parts =>
                readFrom fuel flags names (some (.repeated part least greatest) :: parts) rest
            | _ => none
          else do
            let (primitive, rest) ← readPrimitive flags (c :: rest)
            readFrom fuel flags names (some (primitive.regex flags) :: parts) rest

/-- The regular expression that a text is. One with too many parts is refused. -/
def read? (text : Text) : Option Regex :=
  match readFrom (text.length + 1) {} [] [] text with
  | some (regex, _, []) => if regex.size ≤ sizeLimit then some regex else none
  | _ => none

end RelQuery.Regex
