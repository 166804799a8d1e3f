import RelQuery.Text.Blank
import RelQuery.Text.CaseFold
import RelQuery.Text.Category
import RelQuery.Text.LetterCase

/-!
# Sets of characters

The sets that a regular expression can name: ranges, a few classes of the Unicode standard, and what
can be made of these. A set is a description; `contains` says which characters are in it.
-/

namespace RelQuery

/-- The classes of characters that have a name. -/
inductive CharClass where
  | digit
  | blank
  /-- The characters of words. -/
  | word
  | alphabetic
  | uppercase
  | lowercase
  | letter
  | capital
  | small
  | mark
  | numeral
  | letterNumeral
  | otherNumeral
  | punctuation
  | symbol
  | separator
  deriving DecidableEq, Repr

/-- Whether a character is in a class. -/
def CharClass.contains : CharClass → Char → Bool
  | digit, c => Text.isDecimalDigit c
  | blank, c => Text.isBlank c
  | word, c => Text.isWordCharacter c
  | alphabetic, c => Text.isAlphabetic c
  | uppercase, c => Text.isUppercase c
  | lowercase, c => Text.isLowercase c
  | letter, c => Text.isLetter c
  | capital, c => Text.isCapital c
  | small, c => Text.isSmall c
  | mark, c => Text.isMark c
  | numeral, c => Text.isNumeral c
  | letterNumeral, c => Text.inRanges c.toNat Text.letterNumeralRanges
  | otherNumeral, c => Text.inRanges c.toNat Text.otherNumeralRanges
  | punctuation, c => Text.inRanges c.toNat Text.punctuationRanges
  | symbol, c => Text.inRanges c.toNat Text.symbolRanges
  | separator, c => Text.inRanges c.toNat Text.separatorRanges

/-- A set of characters. -/
inductive CharSet where
  | none
  /-- The characters from one to another. -/
  | range (first last : Char)
  | ofClass (name : CharClass)
  | complement (set : CharSet)
  | union (left right : CharSet)
  | inter (left right : CharSet)
  /-- The characters of a set and those that differ from them in case only. -/
  | anyCase (set : CharSet)
  deriving DecidableEq, Repr, Inhabited

namespace CharSet

/-- Whether a character is in a set. -/
def contains : CharSet → Char → Bool
  | none, _ => false
  | range first last, c => first ≤ c && c ≤ last
  | ofClass name, c => name.contains c
  | complement set, c => !set.contains c
  | union left right, c => left.contains c || right.contains c
  | inter left right, c => left.contains c && right.contains c
  | anyCase set, c => (Text.caseVariants c).any set.contains

/-- The set of one character. -/
def single (c : Char) : CharSet := range c c

/-- All characters. -/
def all : CharSet := complement none

/-- The characters of the left set that are not in the right one. -/
def difference (left right : CharSet) : CharSet := inter left (complement right)

/-- The characters that are in one of two sets only. -/
def symmetricDifference (left right : CharSet) : CharSet :=
  union (difference left right) (difference right left)

/-- The characters of some ranges. -/
def ofRanges (ranges : List (Char × Char)) : CharSet :=
  ranges.foldr (fun (first, last) set => union (range first last) set) none

/-- The ASCII letters and digits. -/
def asciiWords : CharSet :=
  ofRanges [('0', '9'), ('A', 'Z'), ('_', '_'), ('a', 'z')]

/-- The blanks of ASCII. -/
def asciiBlanks : CharSet :=
  ofRanges [('\t', '\r'), (' ', ' ')]

/-- The sets of ASCII characters that have a name. -/
def ascii? (name : Text) : Option CharSet :=
  match String.ofList name with
  | "alnum" => some (ofRanges [('0', '9'), ('A', 'Z'), ('a', 'z')])
  | "alpha" => some (ofRanges [('A', 'Z'), ('a', 'z')])
  | "ascii" => some (range '\x00' '\x7f')
  | "blank" => some (ofRanges [('\t', '\t'), (' ', ' ')])
  | "cntrl" => some (ofRanges [('\x00', '\x1f'), ('\x7f', '\x7f')])
  | "digit" => some (range '0' '9')
  | "graph" => some (range '!' '~')
  | "lower" => some (range 'a' 'z')
  | "print" => some (range ' ' '~')
  | "punct" => some (ofRanges [('!', '/'), (':', '@'), ('[', '\x60'), ('\x7b', '~')])
  | "space" => some asciiBlanks
  | "upper" => some (range 'A' 'Z')
  | "word" => some asciiWords
  | "xdigit" => some (ofRanges [('0', '9'), ('A', 'F'), ('a', 'f')])
  | _ => Option.none

/-- The class that a property is called, in small letters without blanks and lines. -/
def class? (name : String) : Option CharClass :=
  match name with
  | "alphabetic" | "alpha" => some .alphabetic
  | "uppercase" | "upper" => some .uppercase
  | "lowercase" | "lower" => some .lowercase
  | "whitespace" | "wspace" | "space" => some .blank
  | "l" | "letter" => some .letter
  | "lu" | "uppercaseletter" => some .capital
  | "ll" | "lowercaseletter" => some .small
  | "m" | "mark" | "combiningmark" => some .mark
  | "n" | "number" => some .numeral
  | "nd" | "decimalnumber" | "digit" => some .digit
  | "nl" | "letternumber" => some .letterNumeral
  | "no" | "othernumber" => some .otherNumeral
  | "p" | "punctuation" | "punct" => some .punctuation
  | "s" | "symbol" => some .symbol
  | "z" | "separator" => some .separator
  | _ => Option.none

/-- The set of the characters with a property. -/
def property? (name : Text) : Option CharSet :=
  let plain := (name.filter fun c => c ≠ ' ' && c ≠ '_' && c ≠ '-').map Char.toLower
  if plain = "any".toList then some all
  else if plain = "ascii".toList then some (range '\x00' '\x7f')
  else (class? (String.ofList plain)).map .ofClass

/-- The set of one character has no other one. -/
theorem contains_single_iff {a c : Char} : (single a).contains c = true ↔ c = a := by
  simp only [single, contains, Bool.and_eq_true, decide_eq_true_eq]
  exact ⟨fun ⟨h₁, h₂⟩ => Char.le_antisymm h₂ h₁, fun h => h ▸ ⟨Char.le_refl c, Char.le_refl c⟩⟩

/-- Every character is in the set of all. -/
theorem contains_all (c : Char) : all.contains c = true := rfl

end CharSet

end RelQuery
