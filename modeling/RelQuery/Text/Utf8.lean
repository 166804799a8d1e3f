import RelQuery.Text

/-!
# Text in bytes

A name of a file is a list of bytes, which need not be text. Bytes are read one after the other as
what they are in UTF-8: a character by itself, the first byte of a longer one, or a further byte of
it. Bytes that are no character are read as nothing in the place of one. They end where the first
byte stands that cannot go on with them, and that byte is read anew.
-/

namespace RelQuery.Utf8

/-- A character whose first bytes have been read: what they say of its code point, how many bytes it
needs still, and the bounds of the next one. -/
structure Begun where
  value : Nat
  needed : Nat
  low : Nat
  high : Nat
  deriving DecidableEq, Repr

/-- What has been read: characters, or nothing where bytes are none, and what has begun. -/
abbrev Reading := List (Option Char) × Option Begun

/-- Reads a byte that begins a character. The bounds of the next byte rule out what has a shorter
form, what is half of a pair, and what is beyond the last code point. -/
def first (byte : Nat) : Reading :=
  if byte < 0x80 then ([some (Char.ofNat byte)], none)
  else if byte < 0xC2 then ([none], none)
  else if byte < 0xE0 then ([], some ⟨byte - 0xC0, 1, 0x80, 0xBF⟩)
  else if byte < 0xF0 then
    ([], some ⟨byte - 0xE0, 2, if byte = 0xE0 then 0xA0 else 0x80,
      if byte = 0xED then 0x9F else 0xBF⟩)
  else if byte < 0xF5 then
    ([], some ⟨byte - 0xF0, 3, if byte = 0xF0 then 0x90 else 0x80,
      if byte = 0xF4 then 0x8F else 0xBF⟩)
  else ([none], none)

/-- Reads a byte behind those of a character that has begun. -/
def next (begun : Begun) (byte : Nat) : Reading :=
  if begun.low ≤ byte ∧ byte ≤ begun.high then
    let value := 64 * begun.value + (byte - 0x80)
    if begun.needed = 1 then ([some (Char.ofNat value)], none)
    else ([], some ⟨value, begun.needed - 1, 0x80, 0xBF⟩)
  else (none :: (first byte).1, (first byte).2)

/-- Reads one byte. -/
def step : Option Begun → Nat → Reading
  | none, byte => first byte
  | some begun, byte => next begun byte

/-- Reads bytes behind those of a character that may have begun. -/
def readFrom (begun : Option Begun) : List UInt8 → List (Option Char)
  | [] => if begun.isSome then [none] else []
  | byte :: bytes =>
      let (characters, begun) := step begun byte.toNat
      characters ++ readFrom begun bytes

/-- The characters that bytes are, and nothing in each place where they are none. -/
def read (bytes : List UInt8) : List (Option Char) :=
  readFrom none bytes

/-- The text that bytes are, if they are text. -/
def text? (bytes : List UInt8) : Option Text :=
  (read bytes).mapM id

/-- The text that is shown for bytes. Where they are no character it has a mark that stands for any
such place. -/
def shown (bytes : List UInt8) : Text :=
  (read bytes).map fun character => character.getD (Char.ofNat 0xFFFD)

/-- The bytes of a text. -/
def encode (text : Text) : List UInt8 :=
  text.flatMap String.utf8EncodeChar

end RelQuery.Utf8
