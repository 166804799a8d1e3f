/-!
# Ranges of code points

A character class of the Unicode standard is written as the list of its code-point ranges in
ascending order, so a search may stop at the first range that begins beyond the code point. Where
capital and small letters alternate, every second code point of a run belongs to a class.
-/

namespace RelQuery.Text

/-- An inclusive range of code points. -/
abbrev CodeRange := Nat × Nat

/-- Searches ascending ranges for a code point and stops at the first range beyond it. -/
def inRanges (code : Nat) : List CodeRange → Bool
  | [] => false
  | (first, last) :: ranges =>
      if code < first then false else code ≤ last || inRanges code ranges

/-- The code points from `first` to `last` at distances of `stride`. -/
structure CodeRun where
  first : Nat
  last : Nat
  stride : Nat

/-- Whether a code point is in a run. -/
def CodeRun.contains (run : CodeRun) (code : Nat) : Bool :=
  run.first ≤ code && code ≤ run.last && (code - run.first) % run.stride = 0

end RelQuery.Text
