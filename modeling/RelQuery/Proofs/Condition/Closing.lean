import RelQuery.Proofs.Condition.Apart
import RelQuery.Proofs.Condition.Grammar

/-!
# Parts in front of a closing parenthesis

A closing parenthesis goes on with no word, number, sign or blank. So keywords, signs and numbers
are read or not in front of one as they are at the end of a text. Text between quotes is the
exception: where it is not closed, a quote behind the parenthesis would close it, so an operand that
is read stays what it is (`operand?_append_close`) and one that is not may become one.
-/

namespace RelQuery.Condition

variable {text rest after : Text} {operand : Operand} {quote : Char}

/-- A text and a closing parenthesis are apart. -/
theorem apart_close : Apart text (')' :: after) where
  begins := by
    rintro c ⟨rfl⟩
    decide
  stops := .inl <| by
    rintro c ⟨rfl⟩
    exact ⟨isWordChar_of_mem (by decide), by decide⟩

/-! ## Blanks and marks -/

/-- The blanks in front are the same with a parenthesis behind the text. -/
theorem skipSpace_append_close :
    skipSpace (text ++ ')' :: after) = skipSpace text ++ ')' :: after :=
  apart_close.skipSpace_append

/-- So is an `or`. -/
theorem orMark?_append_close :
    orMark? (text ++ ')' :: after) = (orMark? text).map (· ++ ')' :: after) :=
  apart_close.orMark?_append

/-- So is an `and`. -/
theorem andMark?_append_close :
    andMark? (text ++ ')' :: after) = (andMark? text).map (· ++ ')' :: after) :=
  apart_close.andMark?_append

/-- So is a `not`. -/
theorem notMark?_append_close :
    notMark? (text ++ ')' :: after) = (notMark? text).map (· ++ ')' :: after) :=
  apart_close.notMark?_append

/-- And so is the sign of a comparison. -/
theorem comparison?_append_close : comparison? (text ++ ')' :: after) =
    (comparison? text).map (followedBy (')' :: after)) :=
  apart_close.comparison?_append

/-! ## Operands -/

/-- Nothing is read off text that is not closed. -/
theorem operand?_unclosed (hquote : quote = '\'' ∨ quote = '"')
    (h : quotedText? (quote :: text) = none) : operand? (quote :: text) = none := by
  have hword : isWordChar quote = false := by
    obtain rfl | rfl := hquote <;> exact isWordChar_of_mem (by decide)
  exact operand?_cons_eq_none hword (number?_quote hquote) h

/-- An operand that is read is the same operand in front of a closing parenthesis. -/
theorem operand?_append_close (h : operand? text = some (operand, rest)) :
    operand? (text ++ ')' :: after) = some (operand, rest ++ ')' :: after) := by
  -- Only text that is not closed could be read differently, and then no operand was read.
  have hquoted : quotedText? (text ++ ')' :: after) =
      (quotedText? text).map (followedBy (')' :: after)) := by
    cases hfound : quotedText? text with
    | some found => exact quotedText?_append hfound
    | none =>
        have hhead : ∀ quote, quote = '\'' ∨ quote = '"' →
            (text ++ ')' :: after).head? ≠ some quote := by
          intro quote hquote hhead
          cases text with
          | nil =>
              obtain rfl | rfl := hquote <;> cases hhead
          | cons c text =>
              obtain rfl := Option.some.inj hhead
              rw [operand?_unclosed hquote hfound] at h
              cases h
        exact quotedText?_eq_none (hhead _ (.inl rfl)) (hhead _ (.inr rfl))
  rw [apart_close.operand?_append hquoted, h]
  rfl

end RelQuery.Condition
