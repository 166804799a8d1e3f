import RelQuery.Text.Wrap

/-!
# Boxes

A box shows cells of text in columns between lines. It is at most `Box.limit` columns of the terminal
wide: a column of the box that needs no more than its share of the room gets what it needs, and the
others wrap their lines and share what is left.
-/

namespace RelQuery

namespace Box

/-- The width that a column is meant to have, with a blank on either side. -/
inductive Wish where
  | exactly (width : Nat)
  | between (least greatest : Nat)
  deriving DecidableEq, Repr

/-- A column: the lines of its header, and of its cells from top to bottom. -/
structure Column where
  header : List Text
  cells : List (List Text)
  wish : Wish
  deriving DecidableEq, Repr

namespace Column

/-- All lines of a column. -/
def lines (column : Column) : List Text :=
  column.header ++ column.cells.flatten

/-- The width of the widest of some lines. -/
def widest (lines : List Text) : Nat :=
  (lines.map Text.width).foldl max 0

/-- The width that a column needs if no line is wrapped. -/
def need (column : Column) : Nat :=
  max 1 (widest column.lines)

end Column

/-- The blanks beside the text of a cell. -/
def padding : Nat := 2

/-- The width of a box. -/
def limit : Nat := 100

/-- The room for text within a width. -/
def inner (width : Nat) : Nat :=
  max 1 (width - padding)

/-- A column and the width of its text, once that is settled. -/
structure Slot where
  column : Column
  width : Option Nat
  deriving DecidableEq, Repr

namespace Slot

/-- An exact wish is granted at once, and so is the least width to a column that needs no more. -/
def ofColumn (column : Column) : Slot :=
  match column.wish with
  | .exactly width => ⟨column, some (inner width)⟩
  | .between least _ =>
      ⟨column, if column.need + padding ≤ least then some (inner least) else none⟩

end Slot

/-- The room for text that unsettled columns share. -/
def room (slots : List Slot) : Nat :=
  limit - (slots.length + 1) -
    slots.foldr (fun slot settled => slot.width.getD 0 + padding + settled) 0

/-- The number of unsettled columns. -/
def unsettled (slots : List Slot) : Nat :=
  slots.countP fun slot => slot.width.isNone

/-- Settles columns from left to right by a rule, which is given a column's equal share of the room
that is left. -/
def settle (rule : Nat → Column → Option Nat) (room waiting : Nat) : List Slot → List Slot
  | [] => []
  | slot :: slots =>
      match slot.width with
      | some _ => slot :: settle rule room waiting slots
      | none =>
          match rule (room / waiting) slot.column with
          | some width =>
              ⟨slot.column, some width⟩ :: settle rule (room - width) (waiting - 1) slots
          | none => slot :: settle rule room waiting slots

/-- Settles columns by a rule until it settles no more: the shares grow with each settled column, so
there are as many rounds as columns. -/
def settleAll (rule : Nat → Column → Option Nat) (slots : List Slot) : List Slot :=
  (List.range slots.length).foldl
    (fun slots _ => settle rule (room slots) (unsettled slots) slots) slots

/-- A column keeps to its greatest width if that is less than its share and less than its need, and
has what it needs if its share is enough for that. -/
def fits (share : Nat) (column : Column) : Option Nat :=
  match column.wish with
  | .exactly width => some (inner width)
  | .between _ greatest =>
      if greatest ≤ share + padding ∧ greatest ≤ column.need + padding then some (inner greatest)
      else if column.need ≤ share then some column.need
      else none

/-- A column that leaves three columns of its share free when its lines are wrapped does without
them. Each byte of UTF-8 counts as a column here. -/
def wraps (share : Nat) (column : Column) : Option Nat :=
  let lines := column.lines.flatMap (Text.wrap share)
  let size := (lines.map Text.utf8Length).foldl max 0
  if size + 3 ≤ share then some size else none

/-- Gives every unsettled column the same width, and one more to the first `excess` of them. -/
def shareOut (share excess : Nat) : List Slot → List Nat
  | [] => []
  | slot :: slots =>
      match slot.width with
      | some width => width :: shareOut share excess slots
      | none => (share + min 1 excess) :: shareOut share (excess - 1) slots

/-- The widths of the texts in the columns. -/
def widths (columns : List Column) : List Nat :=
  let slots := settleAll wraps (settleAll fits (columns.map Slot.ofColumn))
  let waiting := unsettled slots
  shareOut (room slots / waiting) (room slots % waiting) slots

/-- One line of a box, from the texts that stand in its columns. -/
def line (widths : List Nat) (texts : List Text) : Text :=
  let padded := (widths.zip texts).map fun (width, text) =>
    ' ' :: text ++ List.replicate (width - Text.width text) ' ' ++ [' ']
  '│' :: Text.joinWith ['┆'] padded ++ ['│', '\n']

/-- The lines of a row of cells. The cell with the most lines decides on their number. -/
def row (widths : List Nat) (cells : List (List Text)) : Text :=
  let wrapped := (widths.zip cells).map fun (width, lines) => lines.flatMap (Text.wrap width)
  let height := (wrapped.map List.length).foldl max 0
  (List.range height).flatMap fun i =>
    line widths (wrapped.map fun lines => (lines[i]?).getD [])

/-- A rule across a box. -/
def rule (widths : List Nat) (left stroke joint right : Char) : Text :=
  left :: Text.joinWith [joint] (widths.map fun width => List.replicate (width + padding) stroke) ++
    [right, '\n']

/-- A box with some rows of cells below the header. -/
def toText (height : Nat) (columns : List Column) : Text :=
  let widths := widths columns
  rule widths '┌' '─' '┬' '┐' ++ row widths (columns.map Column.header) ++
    rule widths '╞' '═' '╪' '╡' ++
    ((List.range height).flatMap fun i =>
      row widths (columns.map fun column => (column.cells[i]?).getD [])) ++
    rule widths '└' '─' '┴' '┘'

end Box

end RelQuery
