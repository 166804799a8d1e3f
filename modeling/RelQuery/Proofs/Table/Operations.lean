import RelQuery.Proofs.Table.Outcome
import Mathlib.Data.Set.Image

/-!
# Operations on frames as operations on relations

Each operation on frames whose values are exact is an operation on the relations that they show:
rows that repeat each other are one tuple, rows that match agree as tuples, and the cells of two
rows put together are a merged tuple. That no row of a result is repeated is shown beside.
-/

namespace RelQuery

variable {frame left right : Frame} {rows : List Row} {row a b : Row} {wanted : List Text}
variable {seen : List (List Cell.Key)} {columns : List Text} {name : Text}

/-! ## Repetitions -/

/-- Where equal cells are the same, the rows that are left are those that were not seen before. -/
theorem mem_distinctRows (h : ∀ row ∈ rows, ∀ cell ∈ row, cell.Exact) :
    row ∈ distinctRows seen rows ↔ row ∈ rows ∧ row.key ∉ seen := by
  induction rows generalizing seen with
  | nil => simp [distinctRows]
  | cons first rows ih =>
      obtain ⟨hfirst, hrows⟩ := List.forall_mem_cons.1 h
      by_cases hseen : first.key ∈ seen
      · rw [distinctRows, if_pos (by simpa using hseen), ih hrows, List.mem_cons]
        refine and_congr_left fun hrow => ?_
        have hne : row ≠ first := fun he => hrow (he ▸ hseen)
        simp [hne]
      · rw [distinctRows, if_neg (by simpa using hseen), List.mem_cons, ih hrows, List.mem_cons,
          List.mem_cons, not_or]
        constructor
        · rintro (rfl | ⟨hmem, -, hrow⟩)
          · exact ⟨.inl rfl, hseen⟩
          · exact ⟨.inr hmem, hrow⟩
        · rintro ⟨rfl | hmem, hrow⟩
          · exact .inl rfl
          · by_cases hkey : first.key = row.key
            · exact .inl ((Row.key_eq_iff hfirst).1 hkey).symm
            · exact .inr ⟨hmem, Ne.symm hkey, hrow⟩

/-- And none is left twice. -/
theorem nodup_distinctRows (h : ∀ row ∈ rows, ∀ cell ∈ row, cell.Exact) :
    (distinctRows seen rows).Nodup := by
  induction rows generalizing seen with
  | nil => exact .nil
  | cons first rows ih =>
      obtain ⟨-, hrows⟩ := List.forall_mem_cons.1 h
      rw [distinctRows]
      split
      · exact ih hrows
      · refine List.nodup_cons.2 ⟨fun hmem => ?_, ih hrows⟩
        exact ((mem_distinctRows hrows).1 hmem).2 List.mem_cons_self

namespace Frame

/-- Fewer rows over the same columns. -/
theorem Typed.of_subset (h : frame.Typed) (hrows : rows ⊆ frame.rows) :
    Typed { frame with rows := rows } where
  names_nodup := h.names_nodup
  not_float := h.not_float
  rows_typed row hrow := h.rows_typed row (hrows hrow)
  rows_eq_nil hschema := List.subset_nil.1 (h.rows_eq_nil hschema ▸ hrows)

/-- A typed frame has the same rows without repetitions. -/
theorem Typed.mem_distinct (h : frame.Typed) : row ∈ frame.distinct.rows ↔ row ∈ frame.rows := by
  have hrows : row ∈ distinctRows [] frame.rows ↔ row ∈ frame.rows ∧ row.key ∉ [] :=
    mem_distinctRows fun _ hrow => h.exact_of_mem hrow
  simpa [distinct] using hrows

/-- Without repetitions a typed frame is clean. -/
theorem Typed.distinct (h : frame.Typed) : frame.distinct.Clean where
  toTyped := h.of_subset fun _ hrow => h.mem_distinct.1 hrow
  rows_nodup := nodup_distinctRows fun _ hrow => h.exact_of_mem hrow

/-- So it stands for the same relation. -/
theorem Typed.relation_distinct (h : frame.Typed) : frame.distinct.relation = frame.relation := by
  have hschema : frame.distinct.schema = frame.schema := rfl
  simp only [relation, h.mem_distinct, hschema]

/-! ## Tests on rows -/

/-- Leaving out rows leaves a frame clean. -/
theorem Clean.filter (h : frame.Clean) (test : Row → Bool) : (frame.filter test).Clean where
  toTyped := h.of_subset (List.filter_subset_self _)
  rows_nodup := h.rows_nodup.filter test

/-- A test that says something about tuples keeps the tuples of which it is true. -/
theorem relation_filter {test : Row → Bool} {P : Tuple → Prop}
    (h : ∀ row ∈ frame.rows, test row ↔ P (row.cell frame.schema)) :
    (frame.filter test).relation =
      ⟨frame.relation.columns, {t | t ∈ frame.relation.tuples ∧ P t}⟩ := by
  have htuples (t : Tuple) : (∃ row ∈ frame.rows.filter test, row.cell frame.schema = t) ↔
      (∃ row ∈ frame.rows, row.cell frame.schema = t) ∧ P t := by
    constructor
    · rintro ⟨row, hrow, rfl⟩
      obtain ⟨hmem, htest⟩ := List.mem_filter.1 hrow
      exact ⟨⟨row, hmem, rfl⟩, (h row hmem).1 htest⟩
    · rintro ⟨⟨row, hmem, rfl⟩, hP⟩
      exact ⟨row, List.mem_filter.2 ⟨hmem, (h row hmem).2 hP⟩, rfl⟩
  exact congrArg (Relation.mk frame.schema.names) (Set.ext htuples)

/-- A selection of rows is the selection of the tuples. -/
theorem Typed.relation_keeps {predicate : Condition.Predicate} (h : frame.Typed)
    (hcomparable : predicate.comparable frame.schema) :
    (frame.filter (predicate.keeps frame.schema)).relation = frame.relation.select predicate :=
  relation_filter fun row hrow => Condition.Predicate.keeps_iff (h.rows_typed row hrow) hcomparable

/-! ## Columns by their names -/

/-- Selecting columns leaves it typed, if no column is selected twice. -/
theorem Typed.select (h : frame.Typed) (hnodup : wanted.Nodup)
    (hwanted : ∀ name ∈ wanted, name ∈ frame.schema.names) : (frame.select wanted).Typed where
  names_nodup := by
    rw [Frame.select, Schema.names_select hwanted]
    exact hnodup
  not_float column hcolumn := by
    obtain ⟨name, -, hname⟩ := List.mem_filterMap.1 hcolumn
    exact h.not_float column (List.mem_of_find?_eq_some hname)
  rows_typed row hrow := by
    rw [Frame.select] at hrow
    split at hrow
    · cases hrow
    · obtain ⟨whole, hwhole, rfl⟩ := List.mem_map.1 hrow
      exact (h.rows_typed whole hwhole).cells hwanted
  rows_eq_nil hschema := by
    have hnone : wanted = [] := by
      rw [← Schema.names_select hwanted]
      exact congrArg Schema.names hschema
    rw [Frame.select, if_pos (List.isEmpty_iff.2 hnone)]

/-- The cells that are selected make the tuple of their attributes. -/
theorem cell_select {schema : Schema} (hwanted : ∀ name ∈ wanted, name ∈ schema.names) :
    (row.cells schema wanted).cell (schema.select wanted) =
      Tuple.restrict wanted (row.cell schema) := by
  have hnames := Schema.names_select hwanted
  funext name
  by_cases hname : name ∈ wanted
  · rw [Row.cell_cells hnames hname, Tuple.restrict, if_pos hname]
  · have hlength : (row.cells schema wanted).length = (schema.select wanted).length := by
      rw [Row.length_cells, ← Schema.length_names, hnames]
    rw [Row.cell_of_not_mem hlength (hnames.symm ▸ hname), Tuple.restrict, if_neg hname]

/-- A selection of columns is a projection. -/
theorem relation_select (hwanted : ∀ name ∈ wanted, name ∈ frame.schema.names)
    (hnone : wanted = [] → frame.rows = []) :
    (frame.select wanted).relation = frame.relation.project wanted := by
  have hrows : (frame.select wanted).rows =
      frame.rows.map fun row => row.cells frame.schema wanted := by
    rw [Frame.select]
    split
    · rename_i hempty
      rw [hnone (List.isEmpty_iff.1 hempty), List.map_nil]
    · rfl
  have hschema : (frame.select wanted).schema = frame.schema.select wanted := rfl
  have htuples (t : Tuple) : (∃ row ∈ frame.rows.map fun row => row.cells frame.schema wanted,
      row.cell (frame.schema.select wanted) = t) ↔
      ∃ whole, (∃ row ∈ frame.rows, row.cell frame.schema = whole) ∧
        Tuple.restrict wanted whole = t := by
    constructor
    · rintro ⟨_, hmem, rfl⟩
      obtain ⟨row, hrow, rfl⟩ := List.mem_map.1 hmem
      exact ⟨_, ⟨row, hrow, rfl⟩, (cell_select hwanted).symm⟩
    · rintro ⟨_, ⟨row, hrow, rfl⟩, rfl⟩
      exact ⟨_, List.mem_map_of_mem hrow, cell_select hwanted⟩
  rw [relation, hrows, hschema, Schema.names_select hwanted]
  exact congrArg (Relation.mk wanted) (Set.ext htuples)

/-- Nothing is lost in a projection to all attributes. -/
theorem Typed.tuples_project (h : frame.Typed) (hall : ∀ name ∈ frame.schema.names, name ∈ wanted) :
    (frame.relation.project wanted).tuples = frame.relation.tuples := by
  have hkeep : ∀ t ∈ frame.relation.tuples, Tuple.restrict wanted t = t := by
    rintro _ ⟨row, hrow, rfl⟩
    funext name
    by_cases hname : name ∈ wanted
    · rw [Tuple.restrict, if_pos hname]
    · rw [Tuple.restrict, if_neg hname, h.cell_of_not_mem hrow fun hmem => hname (hall name hmem)]
  exact (Set.image_congr hkeep).trans (Set.image_id' _)

/-! ## Set operators -/

/-- The same columns in another order are lined up by their names. -/
theorem schema_select_of_perm (hnodup : left.schema.names.Nodup)
    (hperm : left.schema.Perm right.schema) :
    (right.select left.schema.names).schema = left.schema :=
  Schema.select_names ((hperm.map Column.name).nodup_iff.1 hnodup) fun _ => hperm.mem_iff.1

/-- Rows over the same columns can be appended to typed ones. -/
theorem Typed.append (hl : left.Typed) (hr : right.Typed) (hperm : left.schema.Perm right.schema) :
    (left.append right).Typed := by
  have haligned := hr.select hl.names_nodup fun _ => (hperm.map Column.name).mem_iff.1
  have hschema := schema_select_of_perm hl.names_nodup hperm
  have hrest := haligned.rows_typed
  rw [hschema] at hrest
  exact {
    names_nodup := hl.names_nodup
    not_float := hl.not_float
    rows_typed := List.forall_mem_append.2 ⟨hl.rows_typed, hrest⟩
    rows_eq_nil := fun hnone => List.append_eq_nil_iff.2
      ⟨hl.rows_eq_nil hnone, haligned.rows_eq_nil (hschema.trans hnone)⟩ }

/-- The tuples of rows that are put one behind the other are those of either frame. -/
theorem relation_append (hl : left.Typed) (hr : right.Typed)
    (hperm : left.schema.Perm right.schema) :
    (left.append right).relation = left.relation.union right.relation := by
  have hmem (name : Text) : name ∈ right.schema.names ↔ name ∈ left.schema.names :=
    (hperm.map Column.name).mem_iff.symm
  have hschema := schema_select_of_perm hl.names_nodup hperm
  have hnone : left.schema.names = [] → right.rows = [] := fun hnil =>
    hr.rows_eq_nil (hperm.symm.trans (.of_eq (List.map_eq_nil_iff.1 hnil))).eq_nil
  have haligned : (right.select left.schema.names).relation.tuples = right.relation.tuples := by
    rw [relation_select (fun _ => (hmem _).2) hnone]
    exact hr.tuples_project fun name => (hmem name).1
  rw [Relation.union, ← haligned]
  simp only [relation, append, List.mem_append, or_and_right, exists_or, hschema]
  rfl

/-- Rows match in columns in which they have the same values. -/
theorem Typed.rowsMatch_iff (h : left.Typed) (ha : a ∈ left.rows)
    (hwanted : ∀ name ∈ wanted, name ∈ left.schema.names) :
    rowsMatch wanted left.schema right.schema a b ↔
      ∀ name ∈ wanted, a.cell left.schema name = b.cell right.schema name := by
  rw [rowsMatch, List.all_eq_true]
  exact forall₂_congr fun name hname => (h.exact_cell ha (hwanted name hname)).matching_iff

/-- A row that matches another in all columns of both shows a tuple that the other one shows. -/
theorem Typed.hasMatch_iff (hl : left.Typed) (hr : right.Typed) (ha : a ∈ left.rows)
    (hsame : ∀ name, name ∈ right.schema.names ↔ name ∈ left.schema.names) :
    hasMatch left.schema.names left right a ↔ a.cell left.schema ∈ right.relation.tuples := by
  simp only [hasMatch, List.any_eq_true, hl.rowsMatch_iff ha fun _ h => h]
  refine exists_congr fun b => and_congr_right fun hb => ⟨fun hmatch => ?_, fun hcell => ?_⟩
  · funext name
    by_cases hname : name ∈ left.schema.names
    · exact (hmatch name hname).symm
    · rw [hl.cell_of_not_mem ha hname, hr.cell_of_not_mem hb (mt (hsame name).1 hname)]
  · exact fun name _ => congrFun hcell.symm name

/-- The rows with a partner of all columns are the intersection. -/
theorem Typed.relation_semiJoin (hl : left.Typed) (hr : right.Typed)
    (hsame : ∀ name, name ∈ right.schema.names ↔ name ∈ left.schema.names) :
    (left.semiJoin left.schema.names right).relation = left.relation.intersect right.relation :=
  relation_filter fun _ hrow => hl.hasMatch_iff hr hrow hsame

/-- Those without one are the difference. -/
theorem Typed.relation_antiJoin (hl : left.Typed) (hr : right.Typed)
    (hsame : ∀ name, name ∈ right.schema.names ↔ name ∈ left.schema.names) :
    (left.antiJoin left.schema.names right).relation = left.relation.difference right.relation :=
  relation_filter fun _ hrow => by
    rw [Bool.not_eq_true', ← Bool.not_eq_true, hl.hasMatch_iff hr hrow hsame]

end Frame

end RelQuery
