import RelQuery.Text
import RelQuery.Text.Emoji
import RelQuery.Text.Width.Wide
import RelQuery.Text.Width.Zero

/-!
# Columns that text takes up

The number of columns of a text in a terminal. By itself a character takes none, one or two; but some
characters are drawn together with those behind them, such as the parts of a joined emoji or the
Arabic letters lam and alef. So a text is measured from its end, and each character is measured in
view of what follows it (`Following`).
-/

namespace RelQuery.Text

/-- What follows a character, as far as the character's width depends on it. -/
inductive Following where
  /-- Nothing that matters. -/
  | plain
  | lineFeed
  | skinTone
  | regionalIndicator
  /-- An emoji, or a sequence that makes one. -/
  | emoji
  /-- A joiner and an emoji. -/
  | joinedEmoji
  /-- A keycap, a joiner and an emoji. -/
  | joinedKeycap
  /-- The Arabic letter alef. -/
  | alef
  /-- A Hebrew lamed, maybe with a joiner in front. -/
  | lamed (joined : Bool)
  /-- A Khmer letter that may stand below another one. -/
  | coengLetter
  /-- A Buginese ya, maybe with a joiner in front. -/
  | ya (joined : Bool)
  /-- A Buginese vowel sign that a joiner joins to a ya. -/
  | joinedVowelSign
  /-- A Tifinagh consonant, maybe with a joiner in front. -/
  | tifinagh (joined : Bool)
  /-- The Tifinagh consonant joiner and a consonant. -/
  | joinedTifinagh
  /-- A Lisu tone letter that joins the one before it. -/
  | toneLetter
  /-- An Old Turkic letter orkhon i, maybe with a joiner in front. -/
  | orkhonI (joined : Bool)
  deriving DecidableEq, Repr

/-- The variation selectors that matter to a width. -/
inductive Selector where
  | text
  | emoji
  deriving DecidableEq, Repr

namespace Following

/-- Whether it is part of a ligature, which a variation selector does not break. -/
def isLigature : Following → Bool
  | alef | lamed _ | coengLetter | ya _ | joinedVowelSign | tifinagh _ | joinedTifinagh
  | toneLetter | orkhonI _ => true
  | _ => false

/-- Whether ignorable characters and joiners may stand within the ligature. -/
def isTransparent (following : Following) : Bool :=
  following.isLigature && following ≠ alef

/-- What is left of it behind a variation selector that selected nothing. -/
def unselected (following : Following) : Following :=
  if following.isLigature then following else plain

/-- What follows a joiner when this follows it within a ligature. -/
def join : Following → Following
  | lamed _ => lamed true
  | ya _ => ya true
  | tifinagh _ => tifinagh true
  | orkhonI _ => orkhonI true
  | following => following

end Following

/-- What a character is to the one before it, by itself. -/
def Following.ofChar (c : Char) : Following :=
  let code := c.toNat
  if code = 0x5DC then .lamed false
  else if code = 0x622 ∨ code = 0x623 ∨ code = 0x625 ∨ code = 0x627 ∨ (0x671 ≤ code ∧ code ≤ 0x673) ∨
      code = 0x675 ∨ code = 0x773 ∨ code = 0x774 ∨ (0x870 ≤ code ∧ code ≤ 0x882) then .alef
  else if (0x1780 ≤ code ∧ code ≤ 0x1782) ∨ (0x1784 ≤ code ∧ code ≤ 0x1787) ∨
      (0x1789 ≤ code ∧ code ≤ 0x178C) ∨ (0x178E ≤ code ∧ code ≤ 0x1793) ∨
      (0x1795 ≤ code ∧ code ≤ 0x1798) ∨ (0x179B ≤ code ∧ code ≤ 0x179D) ∨ code = 0x17A0 ∨
      code = 0x17A2 ∨ code = 0x17A7 ∨ code = 0x17AB ∨ code = 0x17AC ∨ code = 0x17AF then .coengLetter
  else if code = 0x1A10 then .ya false
  else if (0x2D31 ≤ code ∧ code ≤ 0x2D65) ∨ code = 0x2D6F then .tifinagh false
  else if code = 0xA4FC ∨ code = 0xA4FD then .toneLetter
  else if code = 0x10C03 then .orkhonI false
  else if isRegionalIndicator c then .regionalIndicator
  else if isSkinTone c then .skinTone
  else if isEmoji c then .emoji
  else .plain

/-- A character may be ignored where it has no meaning (Unicode property
Default_Ignorable_Code_Point). -/
def isIgnorable (c : Char) : Bool :=
  inRanges c.toNat
    [(0xAD, 0xAD), (0x34F, 0x34F), (0x61C, 0x61C), (0x115F, 0x1160), (0x17B4, 0x17B5),
     (0x180B, 0x180F), (0x200B, 0x200F), (0x202A, 0x202E), (0x2060, 0x206F), (0x3164, 0x3164),
     (0xFE00, 0xFE0F), (0xFEFF, 0xFEFF), (0xFFA0, 0xFFA0), (0xFFF0, 0xFFF8), (0x1BCA0, 0x1BCA3),
     (0x1D173, 0x1D17A), (0xE0000, 0xE0FFF)]

/-- The number of columns of a character by itself. Controls take one, as does all that is neither
wide nor widthless. -/
def charWidth (c : Char) : Nat :=
  let code := c.toNat
  if code ≤ 0xA0 then 1
  else if code = 0x17D8 then 3
  else if code = 0x17A4 then 2
  else if isRegionalIndicator c then 1
  else if isSkinTone c || isEmoji c then 2
  else if isZeroWidth c then 0
  else if isWide c then 2
  else 1

/-- The width that a character adds in front of what follows it, and what it is to the character
before it. A ligature may be narrower than its last part alone, so the width added can be negative. -/
def widthBefore (following : Following) (c : Char) : Int × Following :=
  let code := c.toNat
  if code ≤ 0xA0 then
    if c = '\n' then (1, .lineFeed)
    else if c = '\r' ∧ following = .lineFeed then (0, .plain)
    else (1, .plain)
  else if following.isTransparent ∧ code = 0x200D then (0, following.join)
  else if following.isTransparent ∧ isIgnorable c then (0, following)
  else
    let itself : Int × Following := (charWidth c, .ofChar c)
    match following with
    | .alef =>
        if code = 0x644 ∨ (0x6B5 ≤ code ∧ code ≤ 0x6B8) ∨ code = 0x76A ∨ code = 0x8A6 ∨ code = 0x8C7
        then (0, .plain)
        else if isZeroWidth c ∧ code ≠ 0x200C ∧ code ≠ 0x200D then (0, .alef)
        else itself
    | .lamed true => if code = 0x5D0 then (0, .plain) else itself
    | .coengLetter => if code = 0x17D2 then (-1, .plain) else itself
    | .ya true => if code = 0x1A17 then (0, .joinedVowelSign) else itself
    | .joinedVowelSign => if code = 0x1A15 then (0, .plain) else itself
    | .tifinagh joined =>
        if code = 0x2D7F then (1, .joinedTifinagh)
        else if joined ∧ Following.ofChar c = .tifinagh false then (0, .plain)
        else itself
    | .joinedTifinagh => if Following.ofChar c = .tifinagh false then (-1, .plain) else itself
    | .toneLetter => if 0xA4F8 ≤ code ∧ code ≤ 0xA4FB then (0, .plain) else itself
    | .orkhonI true => if code = 0x10C32 then (0, .plain) else itself
    | .skinTone =>
        if isSkinToneBase c then (0, .emoji)
        else if code = 0x200D then (0, .joinedEmoji)
        else itself
    | .emoji => if code = 0x200D then (0, .joinedEmoji) else itself
    | .joinedEmoji =>
        if code = 0x20E3 then (0, .joinedKeycap)
        else if isSkinTone c then (0, .skinTone)
        else if isEmoji c then (0, .emoji)
        else itself
    | _ => itself

/-- The width that a character adds in front of a variation selector and what follows that, and what
the character is to the one before it. A selector that selects nothing is passed over. -/
def widthBeforeSelector (selector : Option Selector) (following : Following) (c : Char) :
    Int × Following :=
  match selector with
  | none => widthBefore following c
  | some .emoji =>
      if isEmojiSelectable c then
        (if following = .joinedEmoji ∨ following = .joinedKeycap then 0 else 2, .emoji)
      else widthBefore following.unselected c
  | some .text =>
      if isTextSelectable c then (1, .plain) else widthBefore following.unselected c

/-- How a text is measured: the width so far, and what the next character stands before. -/
structure Measure where
  width : Int := 0
  selector : Option Selector := none
  following : Following := .plain

/-- Measures one more character in front of a text. -/
def Measure.put (c : Char) (measure : Measure) : Measure :=
  if c.toNat = 0xFE0F then
    let following := measure.following
    { measure with
      selector := some .emoji
      following := if measure.selector.isNone then following else following.unselected }
  else if c.toNat = 0xFE0E then
    { measure with selector := some .text, following := measure.following.unselected }
  else
    let (added, following) := widthBeforeSelector measure.selector measure.following c
    { width := measure.width + added, selector := none, following }

/-- The number of columns of a text. -/
def width (text : Text) : Nat :=
  (text.foldr Measure.put {}).width.toNat

end RelQuery.Text
