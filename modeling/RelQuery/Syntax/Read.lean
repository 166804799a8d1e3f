import RelQuery.Syntax.Machine
import RelQuery.Operator.Alias

/-!
# Reading expressions

A group is read like an expression of its own with one group fewer to open, so reading recurses on
the number of groups that may still be opened.
-/

namespace RelQuery.Syntax

/-- Reads a text in which `groups` groups may be opened one inside another. -/
def readNested (settings : Settings) : (groups : Nat) → Text → Except ReadError Operand
  | 0, text => readWith settings none text
  | groups + 1, text => readWith settings (some (readNested settings groups)) text

/-- Reads an expression in which operators are symbols. -/
def read (settings : Settings) (text : Text) : Except ReadError Expr :=
  (readNested settings settings.maxDepth text).map Operand.expr

/-- Reads an expression in which operators may be words. -/
def readQuery (settings : Settings) (text : Text) : Except ReadError Expr :=
  read settings (Operator.symbolize text)

end RelQuery.Syntax
