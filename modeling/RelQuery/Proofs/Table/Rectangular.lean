import RelQuery.Proofs.Table.Row

/-!
# Rectangular frames

A frame is rectangular if its columns have different names and every row has a cell for each of
them. The operations on frames keep this; it is all that they need to find the cells of a row by
the names of their columns. What the cells hold does not matter, missing ones included.

A row is equal to what its cells are equal to, column by column (`Row.key_eq_map`).
-/

namespace RelQuery

/-- The columns have different names and every row has a cell for each of them. -/
structure Frame.Rectangular (frame : Frame) : Prop where
  names_nodup : frame.schema.names.Nodup
  length_eq : ∀ row ∈ frame.rows, row.length = frame.schema.length

/-- The names of the columns that both have. -/
def Schema.common (left right : Schema) : List Text :=
  left.names.filter fun name => right.names.contains name

variable {schema : Schema} {frame left right : Frame} {rows : List Row} {row a b : Row}
variable {wanted : List Text} {seen : List (List Cell.Key)} {name : Text}

/-! ## What rows are equal to -/

/-- What two rows in one are equal to is that of the first and of the second. -/
@[simp] theorem Row.key_append : Row.key (a ++ b) = a.key ++ b.key := by
  simp [Row.key]

/-- There is one part of it for every cell. -/
@[simp] theorem Row.length_key : row.key.length = row.length := by
  simp [Row.key]

/-- What a cell is equal to is read off what its row is equal to. -/
theorem Row.key_cell :
    (row.cell schema name).key = (row.key[schema.names.idxOf name]?).getD .missing := by
  cases hcell : row[schema.names.idxOf name]? <;> simp [Row.cell, Row.key, hcell, Cell.key]

/-- What a row is equal to can be told from its cells by name. -/
theorem Row.key_eq_map (hnodup : schema.names.Nodup) (hlength : row.length = schema.length) :
    row.key = schema.names.map fun name => (row.cell schema name).key :=
  calc row.key
      = (schema.names.map (row.cell schema)).map Cell.key := by
        rw [Row.map_cell hnodup hlength, Row.key]
    _ = schema.names.map fun name => (row.cell schema name).key := List.map_map

/-- Rows over the same columns are equal if they are in every column. -/
theorem Row.key_eq_key (hnodup : schema.names.Nodup) (ha : a.length = schema.length)
    (hb : b.length = schema.length)
    (h : ∀ name ∈ schema.names, (a.cell schema name).key = (b.cell schema name).key) :
    a.key = b.key := by
  rw [Row.key_eq_map hnodup ha, Row.key_eq_map hnodup hb]
  exact List.map_congr_left h

/-! ## Operations -/

/-- Rows are only left out. -/
theorem distinctRows_sublist : (distinctRows seen rows).Sublist rows := by
  induction rows generalizing seen with
  | nil => exact .slnil
  | cons first rows ih =>
      rw [distinctRows]
      split
      · exact ih.cons first
      · exact ih.cons_cons first

/-- A row of selected columns has one cell for each name. -/
theorem Frame.length_of_mem_select (h : row ∈ (frame.select wanted).rows) :
    row.length = wanted.length := by
  rw [Frame.select] at h
  split at h
  · cases h
  · obtain ⟨whole, -, rfl⟩ := List.mem_map.1 h
    exact Row.length_cells

namespace Frame.Rectangular

/-- Leaving out rows leaves a frame rectangular. -/
theorem filter (h : frame.Rectangular) (test : Row → Bool) : (frame.filter test).Rectangular where
  names_nodup := h.names_nodup
  length_eq row hrow := h.length_eq row (List.mem_of_mem_filter hrow)

/-- So does leaving out repetitions. -/
theorem distinct (h : frame.Rectangular) : frame.distinct.Rectangular where
  names_nodup := h.names_nodup
  length_eq row hrow := h.length_eq row (distinctRows_sublist.subset hrow)

/-- So does selecting columns, if none is selected twice. -/
theorem select (hwanted : ∀ name ∈ wanted, name ∈ frame.schema.names)
    (hnodup : (frame.schema.select wanted).names.Nodup) : (frame.select wanted).Rectangular where
  names_nodup := hnodup
  length_eq row hrow := by
    have hlength : (frame.schema.select wanted).length = wanted.length := by
      rw [← Schema.length_names, Schema.names_select hwanted]
    exact (length_of_mem_select hrow).trans hlength.symm

/-- Appended rows have a cell for each column of the left frame, wherever they come from. -/
theorem append (hl : left.Rectangular) : (left.append right).Rectangular where
  names_nodup := hl.names_nodup
  length_eq row hrow := by
    obtain hrow | hrow := List.mem_append.1 hrow
    · exact hl.length_eq row hrow
    · rw [length_of_mem_select hrow, Schema.length_names]
      rfl

/-- So does combining all rows, if the names of the columns stay different. -/
theorem product (hl : left.Rectangular) (hr : right.Rectangular)
    (hnodup : (left.product right).schema.names.Nodup) : (left.product right).Rectangular where
  names_nodup := hnodup
  length_eq row hrow := by
    obtain ⟨a, ha, hrow⟩ := List.mem_flatMap.1 hrow
    obtain ⟨b, hb, rfl⟩ := List.mem_map.1 hrow
    rw [List.length_append, hl.length_eq a ha, hr.length_eq b hb, Frame.product,
      List.length_append, Schema.besides, List.length_map]

/-- So does joining rows under the same condition. -/
theorem innerJoin (hl : left.Rectangular)
    (hnodup : (left.innerJoin wanted right).schema.names.Nodup) :
    (left.innerJoin wanted right).Rectangular where
  names_nodup := hnodup
  length_eq row hrow := by
    obtain ⟨a, ha, hrow⟩ := List.mem_flatMap.1 hrow
    obtain ⟨b, -, rfl⟩ := List.mem_map.1 hrow
    simp [Frame.innerJoin, hl.length_eq a ha]

/-- The columns of a frame are all its columns. -/
theorem select_names (h : frame.Rectangular) (hne : frame.schema ≠ []) :
    frame.select frame.schema.names = frame := by
  have hcells : ∀ row ∈ frame.rows, row.cells frame.schema frame.schema.names = row :=
    fun row hrow => Row.map_cell h.names_nodup (h.length_eq row hrow)
  have hempty : frame.schema.names.isEmpty = false := by
    simpa [List.isEmpty_eq_false_iff, Schema.names] using hne
  rw [Frame.select, hempty, Schema.select_names h.names_nodup fun _ hcolumn => hcolumn,
    List.map_congr_left hcells]
  simp

end Frame.Rectangular

end RelQuery
