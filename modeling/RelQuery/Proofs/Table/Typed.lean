import RelQuery.Proofs.Table.Row

/-!
# Values of the types of their columns

A row is typed if every cell of it has a value of its column's type. Integers, truth values and text
are exact: they are equal only to themselves, so that repetitions of a row are that row and cells
that match are the same. A frame is clean if its rows are such and no row is repeated.
-/

namespace RelQuery

/-- The cell has a value of the type. -/
def Dtype.Holds : Dtype → Cell → Prop
  | .int32, .int _ => True
  | .int64, .int _ => True
  | .float64, .float _ => True
  | .boolean, .truth _ => True
  | .text, .text _ => True
  | _, _ => False

/-- The cell has a value that equals no other one. -/
def Cell.Exact : Cell → Prop
  | .int _ | .truth _ | .text _ => True
  | .missing | .float _ => False

/-- The row has a value of the column's type in every column. -/
def Row.Typed (schema : Schema) (row : Row) : Prop :=
  List.Forall₂ (fun column cell => column.dtype.Holds cell) schema row

/-- The columns have different names and types whose values are exact, and every row has a value in
each of them. A frame without columns has no rows. -/
structure Frame.Typed (frame : Frame) : Prop where
  names_nodup : frame.schema.names.Nodup
  not_float : ∀ column ∈ frame.schema, column.dtype ≠ .float64
  rows_typed : ∀ row ∈ frame.rows, row.Typed frame.schema
  rows_eq_nil : frame.schema = [] → frame.rows = []

/-- A typed frame in which no row is repeated. -/
structure Frame.Clean (frame : Frame) : Prop extends frame.Typed where
  rows_nodup : frame.rows.Nodup

variable {schema left right : Schema} {row a b : Row} {name : Text} {wanted : List Text}
variable {column : Column} {cell other : Cell} {dtype dtype' : Dtype} {frame : Frame}

/-! ## Cells -/

/-- Only the values of one type may be equal to others than themselves. -/
theorem Dtype.Holds.exact (h : dtype.Holds cell) (hdtype : dtype ≠ .float64) : cell.Exact := by
  cases dtype <;> cases cell <;> trivial

/-- An exact cell is equal to itself alone. -/
theorem Cell.Exact.key_eq_iff (h : cell.Exact) : cell.key = other.key ↔ cell = other := by
  cases cell <;> cases other <;> simp_all [Cell.Exact, Cell.key]

/-- And it matches itself alone. -/
theorem Cell.Exact.matching_iff (h : cell.Exact) : cell.matching other ↔ cell = other := by
  have hkey : cell.key ≠ .missing := by
    cases cell <;> simp_all [Cell.Exact, Cell.key]
  simp [Cell.matching, hkey, h.key_eq_iff]

/-- Values of comparable types can be compared. -/
theorem Dtype.Holds.isSome_compare? (h : dtype.Holds cell) (h' : dtype'.Holds other)
    (hcomparable : dtype.comparable dtype') : (cell.compare? other).isSome := by
  cases dtype <;> cases cell <;> cases h <;> cases dtype' <;> cases other <;> cases h' <;>
    first | rfl | cases hcomparable

/-! ## Rows -/

/-- What holds of all columns and their cells holds of the cell of a column. -/
theorem Row.rel_cell {R : Column → Cell → Prop} (h : List.Forall₂ R schema row)
    (hcolumn : schema.column? name = some column) : R column (row.cell schema name) := by
  induction h with
  | nil => cases hcolumn
  | @cons first cell schema row hcell _ ih =>
      by_cases hname : first.name = name
      · subst hname
        rw [Row.cell_cons_self]
        simp only [Schema.column?, List.find?_cons, decide_true, Option.some.injEq] at hcolumn
        exact hcolumn ▸ hcell
      · rw [Row.cell_cons_of_ne (Ne.symm hname)]
        exact ih (by simpa [Schema.column?, List.find?_cons, hname] using hcolumn)

namespace Row.Typed

/-- A typed row has a cell for every column. -/
theorem length_eq (h : Row.Typed schema row) : row.length = schema.length :=
  (List.Forall₂.length_eq h).symm

/-- The cell of a column has a value of the column's type. -/
theorem holds_cell (h : Row.Typed schema row) (hcolumn : schema.column? name = some column) :
    column.dtype.Holds (row.cell schema name) :=
  Row.rel_cell h hcolumn

/-- Two typed rows one behind the other are typed. -/
theorem append (ha : Row.Typed left a) (hb : Row.Typed right b) :
    Row.Typed (left ++ right) (a ++ b) :=
  List.rel_append ha hb

/-- The cells of some columns have values of the types of these. -/
theorem cells (h : Row.Typed schema row) (hwanted : ∀ name ∈ wanted, name ∈ schema.names) :
    Row.Typed (schema.select wanted) (row.cells schema wanted) := by
  induction wanted with
  | nil => exact .nil
  | cons name wanted ih =>
      obtain ⟨hname, hrest⟩ := List.forall_mem_cons.1 hwanted
      obtain ⟨column, hcolumn, -⟩ := Schema.exists_column?_of_mem hname
      rw [Schema.select, List.filterMap_cons_some hcolumn]
      exact .cons (h.holds_cell hcolumn) (ih hrest)

end Row.Typed

/-- Rows of exact cells are repetitions of each other only if they are equal. -/
theorem Row.key_eq_iff (h : ∀ cell ∈ a, cell.Exact) : a.key = b.key ↔ a = b := by
  refine ⟨fun hkey => ?_, fun hab => hab ▸ rfl⟩
  induction a generalizing b with
  | nil => simpa [Row.key, eq_comm] using hkey
  | cons cell a ih =>
      obtain ⟨hcell, ha⟩ := List.forall_mem_cons.1 h
      cases b with
      | nil => simp [Row.key] at hkey
      | cons other b =>
          simp only [Row.key, List.map_cons, List.cons.injEq] at hkey
          rw [hcell.key_eq_iff.1 hkey.1, ih ha hkey.2]

namespace Frame.Typed

/-- So do the rows of a typed frame. -/
theorem length_eq (h : frame.Typed) (hrow : row ∈ frame.rows) : row.length = frame.schema.length :=
  (h.rows_typed row hrow).length_eq

/-- A typed frame has exact cells, as none of its columns has that type. -/
theorem exact_cell (h : frame.Typed) (hrow : row ∈ frame.rows) (hname : name ∈ frame.schema.names) :
    (row.cell frame.schema name).Exact := by
  obtain ⟨column, hcolumn, hmem, -⟩ := Schema.exists_column?_of_mem hname
  exact ((h.rows_typed row hrow).holds_cell hcolumn).exact (h.not_float column hmem)

/-- So all cells of its rows are exact. -/
theorem exact_of_mem (h : frame.Typed) (hrow : row ∈ frame.rows) : ∀ cell ∈ row, cell.Exact := by
  intro cell hcell
  rw [← Row.map_cell h.names_nodup (h.length_eq hrow)] at hcell
  obtain ⟨name, hname, rfl⟩ := List.mem_map.1 hcell
  exact h.exact_cell hrow hname

/-- Rows are equal if they have the same cells. -/
theorem row_eq (h : frame.Typed) (ha : a ∈ frame.rows) (hb : b ∈ frame.rows)
    (hcells : ∀ name ∈ frame.schema.names, a.cell frame.schema name = b.cell frame.schema name) :
    a = b :=
  Row.eq_of_cell_eq h.names_nodup (h.length_eq ha) (h.length_eq hb) hcells

end Frame.Typed

end RelQuery
