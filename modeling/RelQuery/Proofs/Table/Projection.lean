import RelQuery.Proofs.Table.Repetitions

/-!
# Columns selected again and repetitions left out early

Columns that are selected from selected columns are the ones that are selected at once. Repetitions
that are left out in between make no difference to what is left out in the end, since rows that
repeat each other have cells that do: of the rows that come to repeat each other, the first is also
the first of those that it repeated before (`distinctRows_map_distinctRows`).
-/

namespace RelQuery

variable {schema : Schema} {frame left right other : Frame} {rows xs ys rest : List Row}
variable {row a b : Row} {names wanted : List Text} {seen : List (List Cell.Key)}

/-! ## Selecting again -/

/-- Columns that are selected from selected ones are selected at once. -/
theorem Schema.select_select (hwanted : ∀ name ∈ wanted, name ∈ names)
    (hnames : ∀ name ∈ names, name ∈ schema.names) :
    (schema.select names).select wanted = schema.select wanted :=
  List.filterMap_congr fun name hname => column?_select hnames (hwanted name hname)

/-- And so are their cells. -/
theorem Row.cells_cells (hwanted : ∀ name ∈ wanted, name ∈ names)
    (hnames : ∀ name ∈ names, name ∈ schema.names) :
    (row.cells schema names).cells (schema.select names) wanted = row.cells schema wanted :=
  List.map_congr_left fun name hname => cell_cells (Schema.names_select hnames) (hwanted name hname)

/-- Repetitions of a row have equal cells. -/
theorem Row.key_cells_congr (h : a.key = b.key) :
    (a.cells schema wanted).key = (b.cells schema wanted).key := by
  simp only [key_cells, key_cell, h]

/-! ## Leaving out repetitions early -/

/-- Rows are left out alike behind the same rows. -/
theorem distinctRows_append_congr (h : ∀ seen, distinctRows seen xs = distinctRows seen ys) :
    distinctRows seen (rows ++ xs) = distinctRows seen (rows ++ ys) := by
  induction rows generalizing seen with
  | nil => exact h seen
  | cons first rows ih => simp only [List.cons_append, distinctRows, ih]

/-- It makes no difference whether the rows that are changed have repetitions, if the change keeps
these. -/
theorem distinctRows_map_distinctRows {change : Row → Row} {other : List (List Cell.Key)}
    (hchange : ∀ a b : Row, a.key = b.key → (change a).key = (change b).key)
    (hseen : ∀ row ∈ rows, row.key ∈ seen → (change row).key ∈ other) :
    distinctRows other ((distinctRows seen rows).map change ++ rest) =
      distinctRows other (rows.map change ++ rest) := by
  induction rows generalizing seen other with
  | nil => rfl
  | cons first rows ih =>
      obtain ⟨hfirst, hrows⟩ := List.forall_mem_cons.1 hseen
      rw [List.map_cons, List.cons_append]
      by_cases hmem : first.key ∈ seen
      · rw [distinctRows_cons_of_mem hmem, distinctRows_cons_of_mem (hfirst hmem)]
        exact ih hrows
      · have hnext : ∀ row ∈ rows, row.key ∈ first.key :: seen →
            (change row).key ∈ (change first).key :: other := by
          rintro row hrow hkey
          obtain heq | hkey := List.mem_cons.1 hkey
          · exact List.mem_cons.2 (.inl (hchange row first heq))
          · exact List.mem_cons_of_mem _ (hrows row hrow hkey)
        rw [distinctRows_cons_of_not_mem hmem, List.map_cons, List.cons_append]
        by_cases hchanged : (change first).key ∈ other
        · rw [distinctRows_cons_of_mem hchanged, distinctRows_cons_of_mem hchanged]
          refine ih fun row hrow hkey => ?_
          obtain heq | hother := List.mem_cons.1 (hnext row hrow hkey)
          · exact heq ▸ hchanged
          · exact hother
        · rw [distinctRows_cons_of_not_mem hchanged, distinctRows_cons_of_not_mem hchanged, ih hnext]

namespace Frame

/-- And so are the columns with their rows, and without any if no column is wanted. -/
theorem select_select (hwanted : ∀ name ∈ wanted, name ∈ names)
    (hnames : ∀ name ∈ names, name ∈ frame.schema.names) :
    (frame.select names).select wanted = frame.select wanted := by
  rw [select, select, select, Schema.select_select hwanted hnames]
  by_cases hempty : wanted = []
  · simp [hempty]
  · have hne : names ≠ [] := by
      obtain ⟨name, hname⟩ := List.exists_mem_of_ne_nil wanted hempty
      exact List.ne_nil_of_mem (hwanted name hname)
    rw [List.isEmpty_eq_false_iff.2 hempty, List.isEmpty_eq_false_iff.2 hne]
    simp only [Bool.false_eq_true, if_false, List.map_map]
    exact congrArg _ (List.map_congr_left fun row _ => Row.cells_cells hwanted hnames)

/-- Rows that are appended have all columns of the left frame, from which columns can be selected
before or after. -/
theorem select_append (hwanted : ∀ name ∈ wanted, name ∈ left.schema.names) :
    (left.append right).select wanted = (left.select wanted).append right := by
  have hnames : (left.schema.select wanted).names = wanted := Schema.names_select hwanted
  by_cases hempty : wanted = []
  · subst hempty
    rfl
  · have hne : left.schema.names ≠ [] := by
      obtain ⟨name, hname⟩ := List.exists_mem_of_ne_nil wanted hempty
      exact List.ne_nil_of_mem (hwanted name hname)
    have hcells (row : Row) : (row.cells right.schema left.schema.names).cells left.schema wanted =
        row.cells right.schema wanted :=
      List.map_congr_left fun name hname => Row.cell_cells rfl (hwanted name hname)
    simp [select, append, hnames, List.isEmpty_eq_false_iff.2 hempty,
      List.isEmpty_eq_false_iff.2 hne, hcells]

/-- Of three frames it makes no difference which two are put together first, if the columns of the
first are among those of the second. -/
theorem append_assoc (h : ∀ name ∈ left.schema.names, name ∈ right.schema.names) :
    (left.append right).append other = left.append (right.append other) := by
  have hnames : (right.select left.schema.names).schema.names = left.schema.names :=
    Schema.names_select h
  have hrest : ((right.append other).select left.schema.names).rows =
      (right.select left.schema.names).rows ++ (other.select left.schema.names).rows := by
    rw [select_append h, append, hnames]
  rw [append, append, append, hrest, List.append_assoc]

/-- Appended rows are lined up whatever the order of their columns is. -/
theorem append_select (hwanted : ∀ name ∈ left.schema.names, name ∈ wanted)
    (hnames : ∀ name ∈ wanted, name ∈ right.schema.names) :
    left.append (right.select wanted) = left.append right := by
  rw [append, select_select hwanted hnames, append]

/-- Behind other rows, what is selected of a frame comes to the same without its repetitions. -/
theorem distinctRows_append_select_distinct :
    distinctRows [] (rows ++ (frame.distinct.select wanted).rows) =
      distinctRows [] (rows ++ (frame.select wanted).rows) := by
  refine distinctRows_append_congr fun seen => ?_
  by_cases hempty : wanted.isEmpty
  · simp only [select, hempty, if_true]
  · let change (row : Row) : Row := row.cells frame.schema wanted
    have hrows : distinctRows seen ((distinctRows [] frame.rows).map change ++ []) =
        distinctRows seen (frame.rows.map change ++ []) :=
      distinctRows_map_distinctRows (fun _ _ => Row.key_cells_congr)
        fun _ _ h => absurd h List.not_mem_nil
    rw [List.append_nil, List.append_nil] at hrows
    simp only [select, hempty, Bool.false_eq_true, if_false]
    exact hrows

/-- And columns that are selected. -/
theorem distinct_select_distinct :
    (frame.distinct.select wanted).distinct = (frame.select wanted).distinct :=
  congrArg (Frame.mk (frame.schema.select wanted)) (@distinctRows_append_select_distinct frame [] wanted)

end Frame

end RelQuery
