import RelQuery.Regex.CharSet

/-!
# Regular expressions

A regular expression matches parts of a text, and `ends` says where the parts end that begin at a
given place. Some expressions match at a place without taking a character, because of what is beside
the place. `isFoundIn` asks whether an expression matches any part of a text.
-/

namespace RelQuery

/-- What the characters on both sides of a place must be. -/
inductive Anchor where
  | textStart
  | textEnd
  /-- The beginning of a line; `returns` if carriage returns end lines too. -/
  | lineStart (returns : Bool)
  | lineEnd (returns : Bool)
  /-- A word begins or ends here. -/
  | wordEdge
  | noWordEdge
  | wordStart
  | wordEnd
  /-- No word goes on to the left. -/
  | wordStartHalf
  /-- No word goes on to the right. -/
  | wordEndHalf
  deriving DecidableEq, Repr

/-- A regular expression. -/
inductive Regex where
  /-- Nothing, at any place. -/
  | empty
  /-- One character of a set. -/
  | one (set : CharSet)
  /-- Nothing, at such a place. -/
  | place (anchor : Anchor)
  | sequence (first second : Regex)
  | choice (first second : Regex)
  /-- As often as `least` times or more, and not more often than `greatest`. -/
  | repeated (inner : Regex) (least : Nat) (greatest : Option Nat)
  deriving DecidableEq, Repr, Inhabited

/-- A place in a text: the character before it and the text behind it. -/
structure Spot where
  before : Option Char
  after : Text
  deriving DecidableEq, Repr

/-- The places in a text that follows a character. -/
def Spot.all (before : Option Char) : Text → List Spot
  | [] => [⟨before, []⟩]
  | c :: text => ⟨before, c :: text⟩ :: Spot.all (some c) text

/-- Whether a place is as an anchor says. -/
def Anchor.holds (anchor : Anchor) (spot : Spot) : Bool :=
  let next := spot.after.head?
  let left := spot.before.any CharClass.word.contains
  let right := next.any CharClass.word.contains
  match anchor with
  | textStart => spot.before.isNone
  | textEnd => next.isNone
  | lineStart false => spot.before.isNone || spot.before = some '\n'
  | lineStart true =>
      spot.before.isNone || spot.before = some '\n' ||
        (spot.before = some '\r' && next ≠ some '\n')
  | lineEnd false => next.isNone || next = some '\n'
  | lineEnd true =>
      next.isNone || next = some '\r' || (next = some '\n' && spot.before ≠ some '\r')
  | wordEdge => left != right
  | noWordEdge => left == right
  | wordStart => !left && right
  | wordEnd => left && !right
  | wordStartHalf => !left
  | wordEndHalf => !right

namespace Regex

/-- The places that one more step leads to from any of some places. -/
def advance (step : Spot → List Spot) (spots : List Spot) : List Spot :=
  (spots.flatMap step).eraseDups

/-- The places that so many steps lead to. -/
def steps (step : Spot → List Spot) : Nat → List Spot → List Spot
  | 0, spots => spots
  | count + 1, spots => steps step count (advance step spots)

/-- The places that so many steps or fewer lead to. -/
def stepsUpTo (step : Spot → List Spot) : Nat → List Spot → List Spot
  | 0, spots => spots
  | count + 1, spots => stepsUpTo step count (spots ++ advance step spots).eraseDups

/-- The places where the parts end that an expression matches from a place on. A step never leads
back, and one more step than there are characters stays somewhere. So when an expression is repeated
so often, it makes no difference how much more often it is repeated. -/
def ends : Regex → Spot → List Spot
  | empty, spot => [spot]
  | one set, spot =>
      match spot.after with
      | [] => []
      | c :: rest => if set.contains c then [⟨some c, rest⟩] else []
  | place anchor, spot => if anchor.holds spot then [spot] else []
  | sequence first second, spot => advance second.ends (first.ends spot)
  | choice first second, spot => (first.ends spot ++ second.ends spot).eraseDups
  | repeated inner least greatest, spot =>
      let limit := spot.after.length + 1
      let more := match greatest with
        | none => limit
        | some greatest => min limit (greatest - least)
      stepsUpTo inner.ends more (steps inner.ends (min limit least) [spot])

/-- Whether an expression matches some part of a text. -/
def isFoundIn (regex : Regex) (text : Text) : Bool :=
  (Spot.all none text).any fun spot => !(regex.ends spot).isEmpty

/-- The number of sets in an expression when its repetitions are written out. -/
def size : Regex → Nat
  | empty | place _ => 0
  | one _ => 1
  | sequence first second => first.size + second.size
  | choice first second => first.size + second.size
  | repeated inner least greatest => inner.size * max 1 (greatest.getD least)

/-- An expression with more sets is too large to be of use. -/
def sizeLimit : Nat := 0x40000

/-- One expression after the other. -/
def ofList (parts : List Regex) : Regex :=
  parts.foldr sequence empty

end Regex

end RelQuery
