import RelQuery.Text.Grapheme
import RelQuery.Text.Width

/-!
# Wrapping lines

A line that is wider than the columns at hand is wrapped at its blanks. A word that is wider than a
whole line is broken between grapheme clusters. Two columns at the end of a line are not worth a
part of a word, so a line that has no more room than that is full.
-/

namespace RelQuery.Text

/-- So few columns at the end of a line are left free. -/
def spareColumns : Nat := 2

/-- How many characters the first clusters have that fit into a width together. -/
def fittingLength (width : Nat) : List Text → Nat
  | [] => 0
  | cluster :: clusters =>
      if Text.width cluster ≤ width then
        cluster.length + fittingLength (width - Text.width cluster) clusters
      else 0

/-- How many characters of a word are put on a line with so much room. A line of its own takes one
character in any case. -/
def breakLength (room : Nat) (fresh : Bool) (word : Text) : Nat :=
  let length := fittingLength room (graphemes word)
  if fresh then max 1 length else length

/-- A line with one more word. -/
def addWord (line word : Text) : Text :=
  if line.isEmpty then word else line ++ ' ' :: word

/-- The lines that a line and the words behind it fill. -/
def wrapWords (width : Nat) (line : Text) : List Text → List Text
  | [] => if line.isEmpty then [] else [line]
  | word :: words =>
      let used := Text.width line + if line.isEmpty then 0 else 1
      if used + Text.width word ≤ width then
        let longer := addWord line word
        if width - spareColumns < Text.width longer then longer :: wrapWords width [] words
        else wrapWords width longer words
      else if !line.isEmpty && width - used ≤ spareColumns then
        line :: wrapWords width [] (word :: words)
      else if width < Text.width word then
        let length := breakLength (width - used) line.isEmpty word
        addWord line (word.take length) :: wrapWords width [] (word.drop length :: words)
      else if width - spareColumns < Text.width word then
        line :: word :: wrapWords width [] words
      else line :: wrapWords width word words
termination_by words => 2 * (words.flatten.length + words.length) + min 1 line.length
decreasing_by
  all_goals simp only [List.flatten_cons, List.length_append, List.length_cons, List.length_drop,
    List.length_nil]
  · omega
  · omega
  · rename_i hb
    have : line ≠ [] := by
      intro he
      simp [he] at hb
    have := List.length_pos_iff.2 this
    omega
  · rename_i hw
    by_cases hl : line = []
    · have hne : word ≠ [] := by
        intro he
        rw [he] at hw
        exact absurd hw (by simp [Text.width])
      have := List.length_pos_iff.2 hne
      simp only [hl, List.isEmpty_nil, breakLength, if_true]
      omega
    · have := List.length_pos_iff.2 hl
      omega
  · omega
  · omega

/-- The lines that a line is shown as: itself if it fits. -/
def wrap (width : Nat) (line : Text) : List Text :=
  if width < Text.width line then wrapWords width [] (splitOn ' ' line) else [line]

end RelQuery.Text
