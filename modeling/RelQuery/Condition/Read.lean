import RelQuery.Condition.Lexeme
import RelQuery.Text.Blank

/-!
# Reading conditions

A predicate is read by ordered choice: `or` binds loosest, then `and`, then `not`, and a negation is
tried before a group and a group before a comparison. A choice that fails is undone and the next one
begins at the same place, so a text is refused at the place where its last choice stopped.

An attribute list is read by splitting it at commas.
-/

namespace RelQuery.Condition

/-- Why a condition cannot be read. -/
inductive ConditionError where
  /-- It is no predicate. The offset is the number of bytes read of the condition without the
  blanks around it. -/
  | invalid (condition : Text) (offset : Nat)
  /-- An attribute list has an item with nothing in it. -/
  | emptyAttribute (condition : Text)
  deriving DecidableEq, Repr

/-- The text of an error. -/
def ConditionError.message : ConditionError → Text
  | invalid condition offset =>
      "invalid condition '".toList ++ condition ++ "' at offset ".toList ++ Text.ofNat offset
  | emptyAttribute condition => "empty attribute name in '".toList ++ condition ++ ['\'']

/-- What a reader makes of a text: a predicate and the text behind it, or the text before which it
stopped. -/
inductive Reading where
  | done (predicate : Predicate) (rest : Text)
  | stopped (rest : Text)
  deriving DecidableEq, Repr

/-- Reads two operands with a comparison sign between them. -/
def readComparison (text : Text) : Reading :=
  match operand? text with
  | none => .stopped text
  | some (lhs, rest) =>
      let rest := skipSpace rest
      match comparison? rest with
      | none => .stopped rest
      | some (op, rest) =>
          let rest := skipSpace rest
          match operand? rest with
          | none => .stopped rest
          | some (rhs, rest) => .done (.compare op lhs rhs) rest

/-- Reads on after a first item while a mark and another item follow; a mark that no item follows is
left unread. At most `limit` items are read. -/
def readMore (mark? : Text → Option Text) (item : Text → Reading)
    (combine : Predicate → Predicate → Predicate) :
    (limit : Nat) → Predicate → Text → Predicate × Text
  | 0, first, text => (first, text)
  | limit + 1, first, text =>
      match mark? (skipSpace text) with
      | none => (first, text)
      | some rest =>
          match item (skipSpace rest) with
          | .done next rest => readMore mark? item combine limit (combine first next) rest
          | .stopped _ => (first, text)

/-- Reads one or more items with marks between them and combines them from the left. -/
def readChain (mark? : Text → Option Text) (item : Text → Reading)
    (combine : Predicate → Predicate → Predicate) (text : Text) : Reading :=
  match item text with
  | .stopped rest => .stopped rest
  | .done first rest =>
      let (predicate, rest) := readMore mark? item combine rest.length first rest
      .done predicate rest

/-- Reads a conjunction of what `item` reads. -/
def readConjunction (item : Text → Reading) : Text → Reading :=
  readChain andMark? item .and

/-- Reads a disjunction of conjunctions of what `item` reads. -/
def readDisjunction (item : Text → Reading) : Text → Reading :=
  readChain orMark? (readConjunction item) .or

/-- Reads a disjunction between parentheses, if the text begins with one. -/
def readGroup? (item : Text → Reading) (text : Text) : Option (Predicate × Text) :=
  match text with
  | '(' :: rest =>
      match readDisjunction item (skipSpace rest) with
      | .stopped _ => none
      | .done predicate rest =>
          match skipSpace rest with
          | ')' :: rest => some (predicate, rest)
          | _ => none
  | _ => none

/-- Reads a negation, if the text begins with one. -/
def readNegated? (item : Text → Reading) (text : Text) : Option (Predicate × Text) :=
  match notMark? text with
  | none => none
  | some rest =>
      match item (skipSpace rest) with
      | .stopped _ => none
      | .done predicate rest => some (.not predicate, rest)

/-- Reads a negation, a group or a comparison. Negations and groups nest at most `depth` deep. -/
def readNegation : (depth : Nat) → Text → Reading
  | 0, text => .stopped text
  | depth + 1, text =>
      let text := skipSpace text
      match readNegated? (readNegation depth) text <|> readGroup? (readNegation depth) text with
      | some (predicate, rest) => .done predicate rest
      | none => readComparison text

/-- Reads the predicate at the beginning of a text. Every negation or group takes a character, so the
length of the text bounds their nesting. -/
def readPredicateAt (text : Text) : Reading :=
  readDisjunction (readNegation (text.length + 1)) text

/-- Reads a condition that is a predicate. -/
def readPredicate (condition : Text) : Except ConditionError Predicate :=
  let text := Text.trim condition
  let invalid (rest : Text) : Except ConditionError Predicate :=
    .error (.invalid condition (Text.utf8Length text - Text.utf8Length rest))
  match readPredicateAt text with
  | .stopped rest => invalid rest
  | .done predicate rest =>
      let rest := skipSpace rest
      if rest.isEmpty then .ok predicate else invalid rest

/-- Reads a condition that is a list of attributes with commas between them. -/
def readAttributes (condition : Text) : Except ConditionError (List Text) :=
  (Text.splitOn ',' condition).mapM fun item =>
    let name := Text.trim item
    if name.isEmpty then .error (.emptyAttribute condition) else .ok name

end RelQuery.Condition
