import RelQuery.Binary64

/-!
# Decimal notation of double-precision numbers

`shortest` finds the fewest decimal digits that only this number is nearest to. On top of it stand
the positional and the scientific notation, and rounding to a fixed number of places.
-/

namespace RelQuery.Binary64

/-- Decimal digits and the exponent of ten of the last of them. -/
structure Decimal where
  digits : Nat
  exponent : Int
  deriving DecidableEq, Repr

namespace Decimal

/-- The number of digits. -/
def size (d : Decimal) : Nat := (Text.ofNat d.digits).length

/-- The decimal without zeros at the end; at most `limit` of them are removed. -/
def trimZeros : (limit : Nat) → Decimal → Decimal
  | 0, d => d
  | limit + 1, d =>
      if d.digits % 10 = 0 ∧ d.digits ≠ 0 then trimZeros limit ⟨d.digits / 10, d.exponent + 1⟩
      else d

/-- Digits at their places, without a point after the last one if nothing follows it. -/
def positional (d : Decimal) : Text :=
  let digits := Text.ofNat d.digits
  if 0 ≤ d.exponent then digits ++ List.replicate d.exponent.toNat '0'
  else
    let places := (-d.exponent).toNat
    let padded := List.replicate (places + 1 - digits.length) '0' ++ digits
    padded.take (padded.length - places) ++ '.' :: padded.drop (padded.length - places)

/-- One digit, then the others behind a point, then the exponent of ten of the first digit. -/
def scientific (d : Decimal) : Text :=
  let exponent := 'e' :: Text.ofInt (d.exponent + (d.size - 1))
  match Text.ofNat d.digits with
  | [] => exponent
  | [digit] => digit :: exponent
  | digit :: digits => digit :: '.' :: digits ++ exponent

end Decimal

/-- The exponent of ten of the first digit of a positive ratio. -/
def leadingPlace (numerator denominator : Nat) : Int :=
  let guess : Int :=
    ((Text.ofNat numerator).length : Int) - (Text.ofNat denominator).length
  let reached :=
    if 0 ≤ guess then denominator * Nat.pow 10 guess.toNat ≤ numerator
    else denominator ≤ numerator * Nat.pow 10 (-guess).toNat
  if reached then guess else guess - 1

/-- The multiples of `10 ^ place` next to a ratio, the nearer one first and of two equally near ones
the even one. -/
def neighbours (numerator denominator : Nat) (place : Int) : List Nat :=
  let (numerator, denominator) :=
    if 0 ≤ place then (numerator, denominator * Nat.pow 10 place.toNat)
    else (numerator * Nat.pow 10 (-place).toNat, denominator)
  let below := numerator / denominator
  if divideToEven numerator denominator = below then [below, below + 1] else [below + 1, below]

/-- The first decimal with at most `more` further digits below `place` that rounds to the number. -/
def search (x : Binary64) (numerator denominator : Nat) : (more : Nat) → (place : Int) → Decimal
  | more, place =>
      let hits := (neighbours numerator denominator place).filter fun digits =>
        ofDecimal x.isNegative digits place = x
      match hits, more with
      | digits :: _, _ => ⟨digits, place⟩
      | [], 0 => ⟨0, 0⟩
      | [], more + 1 => search x numerator denominator more (place - 1)

/-- The fewest digits that the number is nearest to, and among them the ones nearest to the number.
Seventeen digits are always enough. -/
def shortest (x : Binary64) : Decimal :=
  let (numerator, denominator) := x.ratio
  if numerator = 0 then ⟨0, 0⟩
  else
    (search x numerator denominator 17 (leadingPlace numerator denominator)).trimZeros 17

/-- The number's size rounded to a number of places behind the point, a tie to the even digit. -/
def toPlaces (places : Nat) (x : Binary64) : Decimal :=
  let (numerator, denominator) := x.ratio
  ⟨divideToEven (numerator * Nat.pow 10 places) denominator, -places⟩

/-- The number's size rounded to `1 + places` digits, a tie to the even digit. -/
def toDigits (places : Nat) (x : Binary64) : Decimal :=
  let (numerator, denominator) := x.ratio
  if numerator = 0 then ⟨0, -places⟩
  else
    let place := leadingPlace numerator denominator - places
    let rounded :=
      if 0 ≤ place then divideToEven numerator (denominator * Nat.pow 10 place.toNat)
      else divideToEven (numerator * Nat.pow 10 (-place).toNat) denominator
    if rounded = Nat.pow 10 (places + 1) then ⟨Nat.pow 10 places, place + 1⟩ else ⟨rounded, place⟩

/-- The sign in front of the digits. -/
def signed (x : Binary64) (digits : Text) : Text :=
  if x.isNegative then '-' :: digits else digits

end RelQuery.Binary64
