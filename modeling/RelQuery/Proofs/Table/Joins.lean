import RelQuery.Proofs.Table.Operations

/-!
# Joins of frames as joins of relations

Rows put one behind the other show the tuple that their tuples merge into. Such a tuple is
determined by the two, so the pairs of rows that are joined show just the tuples of the joined
relation; and since no column is repeated, two different pairs never become the same row.
-/

namespace RelQuery

variable {frame left right : Frame} {rows : List Row} {a b : Row} {wanted : List Text}

/-! ## Merged tuples -/

namespace Relation

variable {columns others : List Text} {rename : Text → Text} {s t u v : Tuple}

/-- There is only one tuple into which two tuples merge. -/
theorem Merges.unique (h : Merges columns others rename s t u)
    (h' : Merges columns others rename s t v) : u = v := by
  funext name
  by_cases hleft : name ∈ columns
  · rw [h.left_eq name hleft, h'.left_eq name hleft]
  · by_cases hright : name ∈ others.map rename
    · obtain ⟨other, hother, rfl⟩ := List.mem_map.1 hright
      rw [h.right_eq other hother, h'.right_eq other hother]
    · rw [h.missing name hleft hright, h'.missing name hleft hright]

/-- Tuples that merge without new names agree on the attributes of both. -/
theorem Merges.agree (h : Merges columns others id s t u) :
    ∀ name ∈ columns, name ∈ others → s name = t name := by
  intro name hleft hright
  exact (h.left_eq name hleft).symm.trans (h.right_eq name hright)

/-- Where nothing needs a new name, all pairs of tuples are the pairs that agree. -/
theorem naturalJoin_eq_product {r s : Relation} (h : ∀ name ∈ s.columns, name ∉ r.columns) :
    r.naturalJoin s = r.product s := by
  have hname : ∀ name ∈ s.columns, nameBeside r.columns name = name := by
    intro name hmem
    simp [nameBeside, h name hmem]
  have hcolumns : s.columns.filter (fun name => !r.columns.contains name) =
      s.columns.map (nameBeside r.columns) := by
    rw [List.map_congr_left hname, List.map_id', List.filter_eq_self]
    intro name hmem
    simp [h name hmem]
  have hmerges (a b t : Tuple) : Merges r.columns s.columns id a b t ↔
      Merges r.columns s.columns (nameBeside r.columns) a b t := by
    have hmap : s.columns.map id = s.columns.map (nameBeside r.columns) :=
      List.map_congr_left fun name hmem => (hname name hmem).symm
    constructor
    · rintro ⟨hleft, hright, hmissing⟩
      refine ⟨hleft, fun name hmem => ?_, hmap ▸ hmissing⟩
      rw [hname name hmem]
      exact hright name hmem
    · rintro ⟨hleft, hright, hmissing⟩
      refine ⟨hleft, fun name hmem => ?_, hmap ▸ hmissing⟩
      have hvalue := hright name hmem
      rwa [hname name hmem] at hvalue
  simp only [naturalJoin, product, hcolumns, hmerges]

end Relation

/-! ## Pairs of rows -/

/-- A row is put together from a row and another one in at most one way. -/
theorem nodup_flatMap_append {others : Row → List Row} {length : Nat} (hrows : rows.Nodup)
    (hlength : ∀ a ∈ rows, a.length = length) (hothers : ∀ a ∈ rows, (others a).Nodup) :
    (rows.flatMap fun a => (others a).map fun b => a ++ b).Nodup := by
  refine List.nodup_flatMap.2
    ⟨fun a ha => (hothers a ha).map (List.append_right_injective a), hrows.imp_of_mem ?_⟩
  intro a c ha hc hne row hrow hrow'
  obtain ⟨b, -, rfl⟩ := List.mem_map.1 hrow
  obtain ⟨d, -, hd⟩ := List.mem_map.1 hrow'
  exact hne (List.append_inj_left hd.symm ((hlength a ha).trans (hlength c hc).symm))

namespace Frame

/-- Pairs of rows show the tuples that merge from the tuples of the pairs, if only tuples of
matching rows merge. -/
theorem tuples_of_pairs (matched : Row → Row → Prop) (put : Row → Row → Row)
    {rename : Text → Text}
    (hrows : ∀ row, row ∈ frame.rows ↔
      ∃ a ∈ left.rows, ∃ b ∈ right.rows, matched a b ∧ put a b = row)
    (hmerges : ∀ a ∈ left.rows, ∀ b ∈ right.rows, matched a b →
      Relation.Merges left.schema.names right.schema.names rename (a.cell left.schema)
        (b.cell right.schema) ((put a b).cell frame.schema))
    (hmatched : ∀ a ∈ left.rows, ∀ b ∈ right.rows, ∀ t,
      Relation.Merges left.schema.names right.schema.names rename (a.cell left.schema)
        (b.cell right.schema) t → matched a b) :
    frame.relation.tuples = {t | ∃ a ∈ left.relation.tuples, ∃ b ∈ right.relation.tuples,
      Relation.Merges left.schema.names right.schema.names rename a b t} := by
  refine Set.ext fun t => ⟨?_, ?_⟩
  · rintro ⟨row, hrow, rfl⟩
    obtain ⟨a, ha, b, hb, hmatch, rfl⟩ := (hrows row).1 hrow
    exact ⟨_, ⟨a, ha, rfl⟩, _, ⟨b, hb, rfl⟩, hmerges a ha b hb hmatch⟩
  · rintro ⟨_, ⟨a, ha, rfl⟩, _, ⟨b, hb, rfl⟩, ht⟩
    have hmatch := hmatched a ha b hb t ht
    exact ⟨_, (hrows _).2 ⟨a, ha, b, hb, hmatch, rfl⟩, (hmerges a ha b hb hmatch).unique ht⟩

/-! ## Products -/

/-- The name of a column beside others. -/
theorem name_besides {left : Schema} {column : Column} :
    (if left.names.contains column.name then
      { column with name := column.name ++ "_right".toList } else column).name =
      Relation.nameBeside left.names column.name :=
  apply_ite Column.name _ _ _

/-- Beside others columns have the names that a relation would give them there. -/
theorem names_besides {left right : Schema} :
    (left.besides right).names = right.names.map (Relation.nameBeside left.names) := by
  rw [Schema.besides, Schema.names.eq_def right, Schema.names, List.map_map, List.map_map]
  exact List.map_congr_left fun _ _ => name_besides

/-- All rows of two typed frames make a typed one, if the names of the columns stay different. -/
theorem Typed.product (hl : left.Typed) (hr : right.Typed)
    (hnodup : (left.product right).schema.names.Nodup) : (left.product right).Typed where
  names_nodup := hnodup
  not_float := by
    refine List.forall_mem_append.2 ⟨hl.not_float, fun column hcolumn => ?_⟩
    obtain ⟨old, hold, rfl⟩ := List.mem_map.1 hcolumn
    have hdtype := hr.not_float old hold
    split <;> exact hdtype
  rows_typed row hrow := by
    obtain ⟨a, ha, hrow⟩ := List.mem_flatMap.1 hrow
    obtain ⟨b, hb, rfl⟩ := List.mem_map.1 hrow
    refine (hl.rows_typed a ha).append (List.forall₂_map_left_iff.2 ?_)
    refine (hr.rows_typed b hb).imp fun column cell hcell => ?_
    split <;> exact hcell
  rows_eq_nil hnone := by
    simp [Frame.product, hl.rows_eq_nil (List.append_eq_nil_iff.1 hnone).1]

/-- And without repetitions they make no repetition. -/
theorem Clean.product (hl : left.Clean) (hr : right.Clean)
    (hnodup : (left.product right).schema.names.Nodup) : (left.product right).Clean where
  toTyped := hl.toTyped.product hr.toTyped hnodup
  rows_nodup := nodup_flatMap_append hl.rows_nodup (fun _ ha => hl.length_eq ha)
    fun _ _ => hr.rows_nodup

/-- Two rows one behind the other, with new names for columns of the second. -/
theorem Typed.merges_product (hl : left.Typed) (hr : right.Typed)
    (hnodup : (left.product right).schema.names.Nodup) (ha : a ∈ left.rows) (hb : b ∈ right.rows) :
    Relation.Merges left.schema.names right.schema.names (Relation.nameBeside left.schema.names)
      (a.cell left.schema) (b.cell right.schema)
      (Row.cell (a ++ b) (left.product right).schema) := by
  have hschema : (left.product right).schema =
    left.schema ++ left.schema.besides right.schema := rfl
  rw [hschema, Schema.names_append, List.nodup_append] at hnodup
  obtain ⟨-, hbesides, hdisjoint⟩ := hnodup
  rw [hschema]
  refine ⟨fun name hname => ?_, fun name hname => ?_, fun name hleft hright => ?_⟩
  · exact Row.cell_append_left (hl.length_eq ha) hname
  · have hrenamed : Relation.nameBeside left.schema.names name ∉ left.schema.names := by
      intro hmem
      refine hdisjoint _ hmem _ ?_ rfl
      rw [names_besides]
      exact List.mem_map_of_mem hname
    rw [Row.cell_append_right (hl.length_eq ha) hrenamed]
    exact Row.cell_map (fun _ => name_besides) hbesides (hr.length_eq hb) hname
  · rw [Row.cell_append_right (hl.length_eq ha) hleft]
    refine Row.cell_of_not_mem ?_ (names_besides ▸ hright)
    rw [hr.length_eq hb, Schema.besides, List.length_map]

/-- The product of frames shows the product of relations. -/
theorem Typed.relation_product (hl : left.Typed) (hr : right.Typed)
    (hnodup : (left.product right).schema.names.Nodup) :
    (left.product right).relation = left.relation.product right.relation := by
  have hcolumns : (left.product right).schema.names =
      (left.relation.product right.relation).columns := by
    rw [Frame.product, Schema.names_append, names_besides]
    rfl
  have htuples : (left.product right).relation.tuples =
      (left.relation.product right.relation).tuples := by
    refine tuples_of_pairs (fun _ _ => True) (fun a b => a ++ b) ?_ ?_ ?_
    · simp [Frame.product]
    · exact fun a ha b hb _ => hl.merges_product hr hnodup ha hb
    · exact fun _ _ _ _ _ _ => trivial
  rw [relation, hcolumns]
  exact congrArg (Relation.mk _) htuples

/-! ## Natural joins -/

/-- A joined row is made of two rows that match. -/
theorem mem_innerJoin {row : Row} : row ∈ (left.innerJoin wanted right).rows ↔
    ∃ a ∈ left.rows, ∃ b ∈ right.rows, rowsMatch wanted left.schema right.schema a b ∧
      a ++ b.cells right.schema (right.schema.without wanted).names = row := by
  simp [Frame.innerJoin, List.mem_flatMap, and_assoc]

/-- The cells of the other columns have values of the types of these. -/
theorem Typed.typed_without (h : frame.Typed) (hb : b ∈ frame.rows) :
    Row.Typed (frame.schema.without wanted)
      (b.cells frame.schema (frame.schema.without wanted).names) := by
  have hothers : ∀ column ∈ frame.schema.without wanted, column ∈ frame.schema :=
    fun _ hcolumn => List.mem_of_mem_filter hcolumn
  have hselect := Schema.select_names h.names_nodup hothers
  have hcells : Row.Typed (frame.schema.select (frame.schema.without wanted).names)
      (b.cells frame.schema (frame.schema.without wanted).names) := by
    refine (h.rows_typed b hb).cells fun name hname => ?_
    obtain ⟨column, hcolumn, rfl⟩ := Schema.mem_names_iff.1 hname
    exact Schema.mem_names_iff.2 ⟨column, hothers column hcolumn, rfl⟩
  rwa [hselect] at hcells

/-- Two typed frames join to a typed one, if the names of the columns stay different. -/
theorem Typed.innerJoin (hl : left.Typed) (hr : right.Typed)
    (hnodup : (left.innerJoin wanted right).schema.names.Nodup) :
    (left.innerJoin wanted right).Typed where
  names_nodup := hnodup
  not_float := by
    refine List.forall_mem_append.2 ⟨hl.not_float, fun column hcolumn => ?_⟩
    exact hr.not_float column (List.mem_of_mem_filter hcolumn)
  rows_typed row hrow := by
    obtain ⟨a, ha, b, hb, -, rfl⟩ := mem_innerJoin.1 hrow
    exact (hl.rows_typed a ha).append (hr.typed_without hb)
  rows_eq_nil hnone := by
    simp [Frame.innerJoin, hl.rows_eq_nil (List.append_eq_nil_iff.1 hnone).1]

/-- Rows that match in all columns of both, the second without these columns. -/
theorem Typed.merges_innerJoin (hl : left.Typed)
    (hwanted : ∀ name, name ∈ wanted ↔ name ∈ left.schema.names ∧ name ∈ right.schema.names)
    (ha : a ∈ left.rows)
    (hmatch : ∀ name ∈ wanted, a.cell left.schema name = b.cell right.schema name) :
    Relation.Merges left.schema.names right.schema.names id (a.cell left.schema)
      (b.cell right.schema)
      (Row.cell (a ++ b.cells right.schema (right.schema.without wanted).names)
        (left.innerJoin wanted right).schema) := by
  have hschema : (left.innerJoin wanted right).schema =
    left.schema ++ right.schema.without wanted := rfl
  have hothers {name : Text} : name ∈ (right.schema.without wanted).names ↔
      name ∈ right.schema.names ∧ name ∉ wanted := by
    rw [Schema.names_without, List.mem_filter]
    simp
  rw [hschema]
  refine ⟨fun name hname => ?_, fun name hname => ?_, fun name hleft hright => ?_⟩
  · exact Row.cell_append_left (hl.length_eq ha) hname
  · by_cases hleft : name ∈ left.schema.names
    · rw [id, Row.cell_append_left (hl.length_eq ha) hleft]
      exact hmatch name ((hwanted name).2 ⟨hleft, hname⟩)
    · rw [id, Row.cell_append_right (hl.length_eq ha) hleft]
      exact Row.cell_cells rfl (hothers.2 ⟨hname, fun hmem => hleft ((hwanted name).1 hmem).1⟩)
  · rw [List.map_id] at hright
    rw [Row.cell_append_right (hl.length_eq ha) hleft]
    refine Row.cell_of_not_mem ?_ fun hmem => hright (hothers.1 hmem).1
    rw [Row.length_cells, Schema.length_names]

/-- And without repetitions there is none in the join, as the columns that are left out repeat those
that stay. -/
theorem Clean.innerJoin (hl : left.Clean) (hr : right.Clean)
    (hwanted : ∀ name, name ∈ wanted ↔ name ∈ left.schema.names ∧ name ∈ right.schema.names)
    (hnodup : (left.innerJoin wanted right).schema.names.Nodup) :
    (left.innerJoin wanted right).Clean where
  toTyped := hl.toTyped.innerJoin hr.toTyped hnodup
  rows_nodup := by
    have hleft : ∀ name ∈ wanted, name ∈ left.schema.names := fun name h => ((hwanted name).1 h).1
    have hrows : (left.innerJoin wanted right).rows = left.rows.flatMap fun a =>
        ((right.rows.filter (rowsMatch wanted left.schema right.schema a)).map fun b =>
          b.cells right.schema (right.schema.without wanted).names).map fun c => a ++ c := by
      simp only [Frame.innerJoin, List.map_map]
      rfl
    rw [hrows]
    refine nodup_flatMap_append hl.rows_nodup (fun _ ha => hl.length_eq ha) fun a ha => ?_
    refine (hr.rows_nodup.filter _).map_on fun b hb c hc hcells => ?_
    obtain ⟨hb, hmatchb⟩ := List.mem_filter.1 hb
    obtain ⟨hc, hmatchc⟩ := List.mem_filter.1 hc
    -- Both rows match the same one, so they have the same cells in the columns that were matched.
    refine hr.row_eq hb hc fun name hname => ?_
    by_cases hmem : name ∈ wanted
    · rw [← (hl.rowsMatch_iff ha hleft).1 hmatchb name hmem,
        (hl.rowsMatch_iff ha hleft).1 hmatchc name hmem]
    · have hother : name ∈ (right.schema.without wanted).names := by
        rw [Schema.names_without, List.mem_filter]
        simp [hname, hmem]
      exact List.map_inj_left.1 hcells name hother

/-- The join of frames on all columns of both shows the natural join of relations. -/
theorem Typed.relation_innerJoin (hl : left.Typed)
    (hwanted : ∀ name, name ∈ wanted ↔ name ∈ left.schema.names ∧ name ∈ right.schema.names) :
    (left.innerJoin wanted right).relation = left.relation.naturalJoin right.relation := by
  have hcolumns : (left.innerJoin wanted right).schema.names =
      (left.relation.naturalJoin right.relation).columns := by
    rw [Frame.innerJoin, Schema.names_append, Schema.names_without, Relation.naturalJoin]
    refine congrArg _ (List.filter_congr fun name hname => ?_)
    have hmem : name ∈ wanted ↔ name ∈ left.schema.names := by simp [hwanted, hname]
    simp [relation, hmem]
  have hleft : ∀ name ∈ wanted, name ∈ left.schema.names := fun name h => ((hwanted name).1 h).1
  have htuples : (left.innerJoin wanted right).relation.tuples =
      (left.relation.naturalJoin right.relation).tuples := by
    refine tuples_of_pairs (fun a b => rowsMatch wanted left.schema right.schema a b)
      (fun a b => a ++ b.cells right.schema (right.schema.without wanted).names) ?_ ?_ ?_
    · exact fun row => mem_innerJoin
    · intro a ha b _ hmatch
      exact hl.merges_innerJoin hwanted ha ((hl.rowsMatch_iff ha hleft).1 hmatch)
    · intro a ha b hb t ht
      refine (hl.rowsMatch_iff ha hleft).2 fun name hname => ?_
      exact ht.agree name (hleft name hname) ((hwanted name).1 hname).2
  rw [relation, hcolumns]
  exact congrArg (Relation.mk _) htuples

end Frame

end RelQuery
