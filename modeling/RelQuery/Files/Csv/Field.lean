import RelQuery.Text

/-!
# Fields of comma-separated values

There are two readings of quotes, and a text is sound only if they agree on its rows. As a sequence
of lines (`lines`) every quote counts: each one opens or closes a part in which line ends are text.
As a sequence of rows (`records`) quotes count in those fields only that begin with one.
-/

namespace RelQuery.Csv

/-- Whether a character ends a line. -/
def isLineEnd (c : Char) : Bool :=
  c = '\n' || c = '\r'

/-- The pieces between the line ends that stand outside quotes. -/
def pieces : (inside : Bool) → Text → List Text
  | _, [] => [[]]
  | inside, c :: text =>
      if !inside && c = '\n' then [] :: pieces inside text
      else
        match pieces (if c = '"' then !inside else inside) text with
        | [] => [[c]]
        | piece :: others => (c :: piece) :: others

/-- The lines of a text. Behind the last line end there is a line only if there is text. -/
def lines (text : Text) : List Text :=
  let pieces := pieces false text
  if pieces.getLast? = some [] then pieces.dropLast else pieces

/-- The number of lines that a text should have: a line end inside quotes ends none of them, except
that it ends the text. -/
def lineCount (text : Text) : Nat :=
  let ends := (pieces false text).length - 1
  if text.isEmpty || text.getLast? = some '\n' then ends else ends + 1

/-- What follows the first line of a text. -/
def dropLine : (inside : Bool) → Text → Text
  | _, [] => []
  | inside, c :: text =>
      if !inside && c = '\n' then text else dropLine (if c = '"' then !inside else inside) text

/-- Where in a row a character stands. -/
inductive Place where
  /-- At the beginning of a field. -/
  | start
  /-- In a field that began without a quote. -/
  | plain
  /-- In a field that began with a quote, and inside quotes or not. -/
  | quoted (inside : Bool)
  deriving DecidableEq, Repr

/-- The place behind a character that ends no field. -/
def Place.after : Place → Char → Place
  | start, c => if c = '"' then quoted true else plain
  | plain, _ => plain
  | quoted inside, c => quoted (if c = '"' then !inside else inside)

/-- A row: its fields as they are written, and whether a line end follows. -/
structure Record where
  fields : List Text
  ended : Bool
  deriving DecidableEq, Repr

/-- What a text means from the middle of a row on. -/
structure Continuation where
  /-- The rest of the field. -/
  field : Text
  /-- The fields behind it in the row. -/
  fields : List Text
  /-- Whether a line end follows the row. -/
  ended : Bool
  /-- The rows behind. -/
  records : List Record

/-- The row that goes on so, from the beginning of a field. -/
def Continuation.record (text : Continuation) : Record :=
  ⟨text.field :: text.fields, text.ended⟩

/-- Reads a text from a place in a row on. -/
def continuation (place : Place) : Text → Continuation
  | [] => ⟨[], [], false, []⟩
  | c :: text =>
      if place ≠ .quoted true ∧ c = ',' then
        let next := continuation .start text
        ⟨[], next.field :: next.fields, next.ended, next.records⟩
      else if place ≠ .quoted true ∧ c = '\n' then
        let next := continuation .start text
        ⟨[], [], true, if text.isEmpty then [] else next.record :: next.records⟩
      else
        let next := continuation (place.after c) text
        { next with field := c :: next.field }

/-- The rows of a text. -/
def records (text : Text) : List Record :=
  if text.isEmpty then []
  else
    let first := continuation .start text
    first.record :: first.records

/-- The fields of a line. -/
def fieldsOf (line : Text) : List Text :=
  (continuation .start line).record.fields

/-- Whether a field begins with a quote. -/
def isQuoted (field : Text) : Bool :=
  field.head? = some '"'

/-- The inside of a quoted field, with quotes still doubled, or the field itself. -/
def inside (field : Text) : Text :=
  if isQuoted field && 2 ≤ field.length then field.tail.dropLast else field

/-- A field without the carriage return of a line end. -/
def dropReturn (field : Text) : Text :=
  if field.getLast? = some '\r' then field.dropLast else field

/-- Takes every second one of the quotes that follow each other. -/
def undouble : (pending : Bool) → Text → Text
  | _, [] => []
  | pending, c :: rest =>
      if c = '"' then
        if pending then c :: undouble false rest else undouble true rest
      else c :: undouble false rest

/-- A text has one piece at least. -/
theorem pieces_ne_nil (inside : Bool) (text : Text) : pieces inside text ≠ [] := by
  cases text with
  | nil => simp [pieces]
  | cons c text =>
    simp only [pieces]
    split
    · simp
    · split <;> simp

/-- The pieces with line ends between them are the text. -/
theorem joinWith_pieces (inside : Bool) (text : Text) :
    Text.joinWith ['\n'] (pieces inside text) = text := by
  induction text generalizing inside with
  | nil => rfl
  | cons c text ih =>
    simp only [pieces]
    split
    · rename_i hc
      simp only [Bool.and_eq_true, decide_eq_true_eq] at hc
      obtain ⟨piece, others, hp⟩ := List.exists_cons_of_ne_nil (pieces_ne_nil inside text)
      have hi := ih inside
      rw [hp] at hi ⊢
      rw [hc.2, Text.joinWith, List.intercalate_cons_cons, ← Text.joinWith, hi]
      rfl
    · have hi := ih (if c = '"' then !inside else inside)
      split
      · rename_i hp
        exact absurd hp (pieces_ne_nil _ _)
      · rename_i piece others hp
        rw [hp] at hi
        cases others with
        | nil => simpa [Text.joinWith, List.intercalate] using hi
        | cons other others =>
          rw [Text.joinWith, List.intercalate_cons_cons] at hi ⊢
          simp only [List.cons_append]
          rw [hi]

end RelQuery.Csv
