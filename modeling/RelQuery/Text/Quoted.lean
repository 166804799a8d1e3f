import RelQuery.Text
import RelQuery.Text.Unprintable

/-!
# Quoted text

Text between double quotes as messages and logs show it: quotes and backslashes are escaped, and so
is every character that would not show as one mark of its own.
-/

namespace RelQuery.Text

/-- One character inside quotes. -/
def quotedChar (c : Char) : Text :=
  match c with
  | '\x00' => ['\\', '0']
  | '\t' => ['\\', 't']
  | '\r' => ['\\', 'r']
  | '\n' => ['\\', 'n']
  | '"' => ['\\', '"']
  | '\\' => ['\\', '\\']
  | c => if isUnprintable c then ['\\', 'u', '{'] ++ hexadecimal c.toNat ++ ['}'] else [c]

/-- A text between double quotes. -/
def quoted (text : Text) : Text :=
  '"' :: text.flatMap quotedChar ++ ['"']

/-- A list of texts, each quoted, in brackets. -/
def quotedList (texts : List Text) : Text :=
  '[' :: joinWith [',', ' '] (texts.map quoted) ++ [']']

end RelQuery.Text
