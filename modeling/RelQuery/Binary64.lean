import RelQuery.Text

/-!
# Double-precision numbers

A number of the binary64 format is its 64-bit word, and everything about it is integer arithmetic:
rounding an exact ratio to the nearest number (`ofRatio`), and an order in which every NaN equals
every other and comes last and the two zeros are equal (`rank`).
-/

namespace RelQuery

/-- A binary64 number, given by its word. -/
structure Binary64 where
  word : UInt64
  deriving DecidableEq, Repr, Inhabited

namespace Binary64

/-- The word of a positive number's bits with the sign in front of them. -/
def ofMagnitude (negative : Bool) (magnitude : Nat) : Binary64 :=
  ⟨UInt64.ofNat (if negative then 0x8000000000000000 + magnitude else magnitude)⟩

/-- The bits of positive infinity. -/
def infinityBits : Nat := 0x7FF0000000000000

/-- Infinity with a sign. -/
def infinity (negative : Bool) : Binary64 := ofMagnitude negative infinityBits

/-- The word that stands for all that is no number. -/
def nan : Binary64 := ⟨0x7FF8000000000000⟩

/-- The bits below the sign. -/
def magnitude (x : Binary64) : Nat := x.word.toNat % 0x8000000000000000

/-- Whether the sign is a minus; that of zero counts. -/
def isNegative (x : Binary64) : Bool := 0x8000000000000000 ≤ x.word.toNat

/-- Whether it is no number: the bits below the sign are beyond those of infinity. -/
def isNaN (x : Binary64) : Bool := infinityBits < x.magnitude

/-- Whether it is one of the two infinities. -/
def isInfinite (x : Binary64) : Bool := x.magnitude = infinityBits

/-- The place of a number in the order: numbers by value, the two zeros together, and NaN last. -/
def rank (x : Binary64) : Int :=
  if x.isNaN then 0x8000000000000000
  else if x.isNegative then -(x.magnitude : Int)
  else x.magnitude

/-- The quotient of two natural numbers rounded to the nearest integer, a tie to the even one. -/
def divideToEven (numerator denominator : Nat) : Nat :=
  let quotient := numerator / denominator
  let remainder := numerator % denominator
  if denominator < 2 * remainder ∨ (denominator = 2 * remainder ∧ quotient % 2 = 1) then
    quotient + 1
  else quotient

/-- `numerator / (denominator * 2 ^ exponent)`, rounded to the nearest integer. -/
def scaledQuotient (numerator denominator : Nat) (exponent : Int) : Nat :=
  if 0 ≤ exponent then divideToEven numerator (denominator * Nat.pow 2 exponent.toNat)
  else divideToEven (numerator * Nat.pow 2 (-exponent).toNat) denominator

/-- The exponent of the last place of the number nearest to a positive ratio: the significand has
53 bits, or fewer if the exponent is the least one. -/
def lastPlace (numerator denominator : Nat) : Int :=
  let guess : Int := (numerator.log2 : Int) - denominator.log2 - 52
  let reached :=
    if 0 ≤ guess then denominator * Nat.pow 2 (guess.toNat + 52) ≤ numerator
    else denominator * Nat.pow 2 52 ≤ numerator * Nat.pow 2 (-guess).toNat
  max (-1074) (if reached then guess else guess - 1)

/-- The number nearest to a ratio, a tie to the even significand, and infinity beyond the greatest
number. The carry of a significand that rounds up to 54 bits passes into the exponent field. -/
def ofRatio (negative : Bool) (numerator denominator : Nat) : Binary64 :=
  if numerator = 0 then ofMagnitude negative 0
  else
    let exponent := lastPlace numerator denominator
    let field := (exponent + 1074).toNat
    let bits := field * 0x10000000000000 + scaledQuotient numerator denominator exponent
    ofMagnitude negative (min bits infinityBits)

/-- The number nearest to an integer. -/
def ofInt (n : Int) : Binary64 :=
  ofRatio (n < 0) n.natAbs 1

/-- The number nearest to `digits * 10 ^ exponent`. Far outside the range of the format the power
of ten is not computed. -/
def ofDecimal (negative : Bool) (digits : Nat) (exponent : Int) : Binary64 :=
  let size : Int := (Text.ofNat digits).length + exponent
  if digits = 0 ∨ size < -400 then ofMagnitude negative 0
  else if 400 < size then infinity negative
  else if 0 ≤ exponent then ofRatio negative (digits * Nat.pow 10 exponent.toNat) 1
  else ofRatio negative digits (Nat.pow 10 (-exponent).toNat)

/-- The significand and the exponent of a finite number: its size is `significand * 2 ^ exponent`. -/
def decode (x : Binary64) : Nat × Int :=
  let field : Nat := x.magnitude / 0x10000000000000
  let fraction : Nat := x.magnitude % 0x10000000000000
  if field = 0 then (fraction, -1074) else (0x10000000000000 + fraction, (field : Int) - 1075)

/-- A finite number's size as a ratio of natural numbers. -/
def ratio (x : Binary64) : Nat × Nat :=
  let (significand, exponent) := x.decode
  if 0 ≤ exponent then (significand * Nat.pow 2 exponent.toNat, 1)
  else (significand, Nat.pow 2 (-exponent).toNat)

end Binary64

end RelQuery
