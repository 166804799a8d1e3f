import RelQuery.Text

/-!
# Settings of the reader

The limits, the names that may be mentioned, and whether the reader keeps a log. Groups and trees
are bounded apart, because a chain of operators makes the tree higher without any parentheses.
-/

namespace RelQuery.Syntax

/-- How expressions are read. -/
structure Settings where
  /-- The relations that may be mentioned; without a list every name may be. -/
  known : Option (List Text) := none
  /-- Whether the reader logs what it does. -/
  trace : Bool := false
  /-- How many groups may be open at a time. -/
  maxDepth : Nat := 64
  /-- How high a composite tree may be. -/
  maxTreeDepth : Nat := 1024
  deriving DecidableEq, Repr

namespace Settings

/-- Whether an expression may mention the relation. -/
def allows (settings : Settings) (name : Text) : Bool :=
  match settings.known with
  | none => true
  | some names => names.contains name

/-- The settings on one line. Of the known relations it says only whether there is a list. -/
def describe (settings : Settings) : Text :=
  "ParseContext \x7b relations: ".toList ++ truth settings.known.isSome ++
    ", trace: ".toList ++ truth settings.trace ++
    ", max_depth: ".toList ++ Text.ofNat settings.maxDepth ++
    ", max_tree_depth: ".toList ++ Text.ofNat settings.maxTreeDepth ++ " \x7d".toList
where
  /-- The word for a truth value. -/
  truth (b : Bool) : Text := (if b then "true" else "false").toList

end Settings

end RelQuery.Syntax
