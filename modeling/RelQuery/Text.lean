/-!
# Text

Text is a list of characters, so that a statement about all texts is an induction. This module
holds the few operations that the rest of the library shares: replacing a pattern from left to
right, splitting at a separator, decimal numerals, and the length of the UTF-8 encoding.
-/

namespace RelQuery

/-- Text is a list of Unicode scalar values. -/
abbrev Text := List Char

namespace Text

/-- `s.strip? p` is what follows `p` in a text that starts with `p`. -/
def strip? : (pattern text : Text) → Option Text
  | [], text => some text
  | _ :: _, [] => none
  | p :: pattern, c :: text => if p = c then strip? pattern text else none

/-- Replaces the occurrences of `pattern` that a scan from left to right meets, once `skip`
characters have been passed over. An occurrence that overlaps one already replaced is not met. -/
def replaceFrom (pattern replacement : Text) : Nat → Text → Text
  | _, [] => []
  | skip + 1, _ :: text => replaceFrom pattern replacement skip text
  | 0, c :: text =>
      if pattern.isPrefixOf (c :: text) then
        replacement ++ replaceFrom pattern replacement (pattern.length - 1) text
      else
        c :: replaceFrom pattern replacement 0 text

/-- Replaces every occurrence of a non-empty `pattern`, leftmost first and without overlaps. -/
def replaceAll (pattern replacement text : Text) : Text :=
  replaceFrom pattern replacement 0 text

/-- The pieces between the separators: one piece more than there are separators. Bytes are split as
text is. -/
def splitOn {α : Type} [DecidableEq α] (separator : α) : List α → List (List α)
  | [] => [[]]
  | c :: text =>
      if c = separator then [] :: splitOn separator text
      else
        match splitOn separator text with
        | [] => [[c]]
        | piece :: pieces => (c :: piece) :: pieces

/-- The text before the first `mark` and the text after it. -/
def cut? (mark : Char) : Text → Option (Text × Text)
  | [] => none
  | c :: text =>
      if c = mark then some ([], text)
      else (cut? mark text).map fun (before, after) => (c :: before, after)

/-- A text is cut at the first mark: there is none before it. -/
theorem cut?_eq_some_iff {mark : Char} {text before after : Text} :
    cut? mark text = some (before, after) ↔ text = before ++ mark :: after ∧ mark ∉ before := by
  induction text generalizing before with
  | nil => simp [cut?]
  | cons c text ih =>
    cases before with
    | nil =>
      by_cases h : c = mark
      · simp [cut?, h, eq_comm]
      · simp [cut?, h]
    | cons b before =>
      by_cases h : c = mark
      · simp only [cut?, h, if_true, List.cons_append, List.mem_cons, not_or]
        constructor
        · intro he
          cases he
        · rintro ⟨he, hb, _⟩
          cases he
          exact absurd rfl hb
      · simp only [cut?, h, if_false, Option.map_eq_some_iff, Prod.exists, Prod.mk.injEq,
          List.cons.injEq, List.cons_append, List.mem_cons, not_or]
        constructor
        · rintro ⟨_, _, hr, ⟨rfl, rfl⟩, rfl⟩
          exact ⟨⟨rfl, (ih.1 hr).1⟩, Ne.symm h, (ih.1 hr).2⟩
        · rintro ⟨⟨rfl, ht⟩, _, hb⟩
          exact ⟨_, _, ih.2 ⟨ht, hb⟩, ⟨rfl, rfl⟩, rfl⟩

/-- A text without the mark cannot be cut at it. -/
theorem cut?_eq_none_iff {mark : Char} {text : Text} : cut? mark text = none ↔ mark ∉ text := by
  induction text with
  | nil => simp [cut?]
  | cons c text ih =>
    by_cases h : c = mark
    · simp [cut?, h]
    · simp [cut?, h, ih, Ne.symm h]

/-- The number of bytes of the UTF-8 encoding. -/
def utf8Length (text : Text) : Nat :=
  text.foldr (fun c length => c.utf8Size + length) 0

/-- The decimal numeral of a natural number. -/
def ofNat (n : Nat) : Text :=
  Nat.toDigits 10 n

/-- The decimal numeral of an integer, with a minus sign in front of a negative one. -/
def ofInt : Int → Text
  | .ofNat n => ofNat n
  | .negSucc n => '-' :: ofNat (n + 1)

/-- The number that a run of decimal digits stands for. -/
def digitsValue (digits : Text) : Nat :=
  digits.foldl (fun value c => 10 * value + (c.toNat - '0'.toNat)) 0

/-- The lower-case hexadecimal numeral of a natural number. -/
def hexadecimal (n : Nat) : Text :=
  Nat.toDigits 16 n

/-- The texts one after the other with `separator` between neighbours. -/
def joinWith (separator : Text) (texts : List Text) : Text :=
  separator.intercalate texts

end Text

/-- Code-point order on texts: the first difference decides, and a text comes after its own
beginnings. UTF-8 bytes compare the same way. -/
def Text.compare : Text → Text → Ordering
  | [], [] => .eq
  | [], _ :: _ => .lt
  | _ :: _, [] => .gt
  | a :: left, b :: right =>
      if a.toNat < b.toNat then .lt
      else if b.toNat < a.toNat then .gt
      else Text.compare left right

end RelQuery
