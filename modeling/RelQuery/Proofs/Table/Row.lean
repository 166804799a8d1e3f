import RelQuery.Table.Frame
import Mathlib.Data.List.Nodup

/-!
# Cells by the names of their columns

A row is a list of cells and `Row.cell` finds the one in the column of a name. Rows that are put one
behind the other have the cells of both, a row of cells that were looked up has just these, and a
row over distinct names is determined by its cells (`Row.eq_of_cell_eq`).
-/

namespace RelQuery

variable {schema left right : Schema} {row a b : Row} {name other : Text} {wanted : List Text}
variable {column : Column} {cell : Cell}

namespace Schema

/-- The name of the first column comes first. -/
@[simp] theorem names_cons : Schema.names (column :: schema) = column.name :: schema.names := rfl

/-- The names of columns on the left come first. -/
@[simp] theorem names_append : Schema.names (left ++ right) = left.names ++ right.names := by
  simp [Schema.names]

/-- There are as many names as columns. -/
@[simp] theorem length_names : schema.names.length = schema.length := by
  simp [Schema.names]

/-- A name is one of the names if a column has it. -/
theorem mem_names_iff : name ∈ schema.names ↔ ∃ column ∈ schema, column.name = name := by
  simp [Schema.names]

/-- Under such a name a column is found. -/
theorem exists_column?_of_mem (h : name ∈ schema.names) :
    ∃ column, schema.column? name = some column ∧ column ∈ schema ∧ column.name = name := by
  cases hcolumn : schema.column? name with
  | none =>
      obtain ⟨column, hmem, hname⟩ := mem_names_iff.1 h
      exact absurd hname (by simpa using List.find?_eq_none.1 hcolumn column hmem)
  | some column =>
      exact ⟨column, rfl, List.mem_of_find?_eq_some hcolumn, by simpa using List.find?_some hcolumn⟩

/-- Where no name occurs twice, every column is found by its name. -/
theorem column?_of_mem (hnodup : schema.names.Nodup) (h : column ∈ schema) :
    schema.column? column.name = some column := by
  obtain ⟨found, hfound, hmem, hname⟩ := exists_column?_of_mem (mem_names_iff.2 ⟨column, h, rfl⟩)
  rw [hfound, List.inj_on_of_nodup_map hnodup hmem h hname]

/-- Selected columns have the names that they are selected by. -/
theorem names_select (h : ∀ name ∈ wanted, name ∈ schema.names) :
    (schema.select wanted).names = wanted := by
  induction wanted with
  | nil => rfl
  | cons name wanted ih =>
      obtain ⟨hname, hwanted⟩ := List.forall_mem_cons.1 h
      obtain ⟨column, hcolumn, -, rfl⟩ := exists_column?_of_mem hname
      rw [select, List.filterMap_cons_some hcolumn, names_cons]
      exact congrArg _ (ih hwanted)

/-- Columns of a schema are what their names select. -/
theorem select_names (hnodup : schema.names.Nodup) (h : ∀ column ∈ left, column ∈ schema) :
    schema.select left.names = left := by
  induction left with
  | nil => rfl
  | cons column left ih =>
      obtain ⟨hcolumn, hleft⟩ := List.forall_mem_cons.1 h
      rw [names_cons, select, List.filterMap_cons_some (column?_of_mem hnodup hcolumn)]
      exact congrArg _ (ih hleft)

/-- The columns with some names in any order are the columns in any order. -/
theorem select_perm (hnodup : schema.names.Nodup) (h : wanted.Perm schema.names) :
    (schema.select wanted).Perm schema := by
  have hself : schema.select schema.names = schema := select_names hnodup fun _ => id
  have hperm : (schema.select wanted).Perm (schema.select schema.names) :=
    h.filterMap schema.column?
  rwa [hself] at hperm

/-- In another order of the columns each is found under its name as before. -/
theorem column?_eq_of_perm (hnodup : left.names.Nodup) (h : left.Perm right) :
    left.column? name = right.column? name := by
  have hright : right.names.Nodup := (h.map Column.name).nodup_iff.1 hnodup
  cases hcolumn : left.column? name with
  | some column =>
      have hmem : column ∈ right := h.mem_iff.1 (List.mem_of_find?_eq_some hcolumn)
      have hname : column.name = name := by simpa using List.find?_some hcolumn
      rw [← hname, column?_of_mem hright hmem]
  | none =>
      refine (List.find?_eq_none.2 fun column hmem => ?_).symm
      exact List.find?_eq_none.1 hcolumn column (h.mem_iff.2 hmem)

/-- Of the columns that were selected each is found under its name as before. -/
theorem column?_select (h : ∀ name ∈ wanted, name ∈ schema.names) (hname : name ∈ wanted) :
    (schema.select wanted).column? name = schema.column? name := by
  induction wanted with
  | nil => cases hname
  | cons first wanted ih =>
      obtain ⟨hfirst, hwanted⟩ := List.forall_mem_cons.1 h
      obtain ⟨column, hcolumn, -, hcolumnName⟩ := exists_column?_of_mem hfirst
      rw [select, List.filterMap_cons_some hcolumn, column?, List.find?_cons]
      by_cases heq : first = name
      · simp [hcolumnName, heq, ← hcolumn]
      · simp only [hcolumnName, heq, decide_false]
        exact ih hwanted ((List.mem_cons.1 hname).resolve_left (Ne.symm heq))

/-- Columns are left out by their names. -/
theorem names_without :
    (schema.without wanted).names = schema.names.filter fun name => !wanted.contains name := by
  rw [without, names, names, List.filter_map]
  rfl

end Schema

namespace Row

/-- The first cell is in the first column. -/
theorem cell_cons_self : Row.cell (cell :: row) (column :: schema) column.name = cell := by
  simp [Row.cell]

/-- A cell in a column of another name is among the others. -/
theorem cell_cons_of_ne (h : name ≠ column.name) :
    Row.cell (cell :: row) (column :: schema) name = Row.cell row schema name := by
  simp [Row.cell, List.idxOf_cons_ne _ (Ne.symm h)]

/-- There is no cell without a column. -/
theorem cell_of_not_mem (hlength : row.length = schema.length) (h : name ∉ schema.names) :
    row.cell schema name = .missing := by
  rw [Row.cell, List.idxOf_eq_length h, List.getElem?_eq_none (by simp [hlength]),
    Option.getD_none]

/-- A cell in a column on the left is in the row on the left. -/
theorem cell_append_left (hlength : a.length = left.length) (h : name ∈ left.names) :
    Row.cell (a ++ b) (left ++ right) name = a.cell left name := by
  have hlt : left.names.idxOf name < a.length := by
    simpa [hlength] using List.idxOf_lt_length_of_mem h
  rw [Row.cell, Row.cell, Schema.names_append, List.idxOf_append_of_mem h,
    List.getElem?_append_left hlt]

/-- A cell in a column that is only on the right is in the row on the right. -/
theorem cell_append_right (hlength : a.length = left.length) (h : name ∉ left.names) :
    Row.cell (a ++ b) (left ++ right) name = b.cell right name := by
  rw [Row.cell, Row.cell, Schema.names_append, List.idxOf_append_of_notMem h,
    Schema.length_names, ← hlength, List.getElem?_append_right (Nat.le_add_right _ _),
    Nat.add_sub_cancel_left]

/-- Looking up the cells of all columns gives the row. -/
theorem map_cell (hnodup : schema.names.Nodup) (hlength : row.length = schema.length) :
    schema.names.map (row.cell schema) = row := by
  induction schema generalizing row with
  | nil => exact (List.eq_nil_of_length_eq_zero hlength).symm
  | cons column schema ih =>
      obtain ⟨cell, row, rfl⟩ := List.exists_cons_of_length_eq_add_one hlength
      rw [Schema.names_cons, List.nodup_cons] at hnodup
      rw [Schema.names_cons, List.map_cons, cell_cons_self]
      have hrest : ∀ name ∈ Schema.names schema,
          Row.cell (cell :: row) (column :: schema) name = Row.cell row schema name := by
        rintro name hmem
        refine cell_cons_of_ne ?_
        rintro rfl
        exact hnodup.1 hmem
      rw [List.map_congr_left hrest, ih hnodup.2 (Nat.succ.inj hlength)]

/-- A row has no more in it than its cells. -/
theorem eq_of_cell_eq (hnodup : schema.names.Nodup) (ha : a.length = schema.length)
    (hb : b.length = schema.length)
    (h : ∀ name ∈ schema.names, a.cell schema name = b.cell schema name) : a = b := by
  rw [← map_cell hnodup ha, ← map_cell hnodup hb]
  exact List.map_congr_left h

/-- There are as many cells as columns that are wanted. -/
@[simp] theorem length_cells : (row.cells schema wanted).length = wanted.length := by
  simp [Row.cells]

/-- A cell that was looked up is found under the same name. -/
theorem cell_cells (hnames : left.names = wanted) (h : name ∈ wanted) :
    (row.cells schema wanted).cell left name = row.cell schema name := by
  have hlt := List.idxOf_lt_length_of_mem h
  rw [Row.cell, hnames, Row.cells, List.getElem?_map, List.getElem?_eq_getElem hlt,
    List.getElem_idxOf, Option.map_some, Option.getD_some]

/-- Where columns get new names, a cell is found under the new name of its column. -/
theorem cell_map {f : Column → Column} {rename : Text → Text}
    (hname : ∀ column, (f column).name = rename column.name)
    (hnodup : (Schema.names (schema.map f)).Nodup) (hlength : row.length = schema.length)
    (h : name ∈ schema.names) : row.cell (schema.map f) (rename name) = row.cell schema name := by
  induction schema generalizing row with
  | nil => cases h
  | cons column schema ih =>
      obtain ⟨cell, row, rfl⟩ := List.exists_cons_of_length_eq_add_one hlength
      rw [List.map_cons, Schema.names_cons, List.nodup_cons] at hnodup
      by_cases hfirst : name = column.name
      · subst hfirst
        rw [cell_cons_self, List.map_cons, ← hname, cell_cons_self]
      · have hrest : name ∈ Schema.names schema := (List.mem_cons.1 h).resolve_left hfirst
        obtain ⟨other, hmem, rfl⟩ := Schema.mem_names_iff.1 hrest
        have hrenamed : rename other.name ∈ Schema.names (schema.map f) :=
          Schema.mem_names_iff.2 ⟨f other, List.mem_map_of_mem hmem, hname other⟩
        have hne : rename other.name ≠ (f column).name := fun he => hnodup.1 (he ▸ hrenamed)
        rw [cell_cons_of_ne hfirst, List.map_cons, cell_cons_of_ne hne]
        exact ih hnodup.2 (Nat.succ.inj hlength) (Schema.mem_names_iff.2 ⟨other, hmem, rfl⟩)

end Row

end RelQuery
