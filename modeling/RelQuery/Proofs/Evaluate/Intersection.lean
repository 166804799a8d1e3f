import RelQuery.Proofs.Evaluate.NaturalJoin
import RelQuery.Proofs.Evaluate.SetRows

/-!
# Intersections and natural joins

Over columns of the same names a natural join matches rows in all of them and has no others to add.
So it lists every row of the left operand as often as it has a match, and without repetitions that
is the intersection (`Frame.distinct_naturalJoin`). Both check the same columns: intersection aligns
those of the right operand first, but to be matched they must be no wildcards, and then they can be
aligned (`evaluate_intersect_naturalJoin`).
-/

namespace RelQuery

variable {left right : Schema} {first second frame f g : Frame} {rows front : List Row} {row : Row}
variable {names : List Text} {seen : List (List Cell.Key)} {catalog : Catalog} {lhs rhs : Expr}
variable {source inner outer : Text}

/-! ## Rows that are repeated in place -/

/-- Rows that were seen before are left out in front of the others. -/
theorem distinctRows_append_of_mem (h : ∀ row ∈ front, row.key ∈ seen) :
    distinctRows seen (front ++ rows) = distinctRows seen rows := by
  induction front with
  | nil => rfl
  | cons first front ih =>
      obtain ⟨hfirst, hfront⟩ := List.forall_mem_cons.1 h
      rw [List.cons_append, distinctRows_cons_of_mem hfirst, ih hfront]

/-- Of rows that are repeated in place, as often as they have others, those are kept that have
any. -/
theorem distinctRows_flatMap_map {others : Row → List Row} :
    distinctRows seen (rows.flatMap fun a => (others a).map fun _ => a) =
      distinctRows seen (rows.filter fun a => !(others a).isEmpty) := by
  induction rows generalizing seen with
  | nil => rfl
  | cons a rows ih =>
      rw [List.flatMap_cons]
      cases hothers : others a with
      | nil => rw [List.filter_cons_of_neg (by simp [hothers]), List.map_nil, List.nil_append, ih]
      | cons b bs =>
          have hcopies {seen : List (List Cell.Key)} (ha : a.key ∈ seen) :
              ∀ row ∈ bs.map fun _ => a, row.key ∈ seen := by
            intro row hrow
            obtain ⟨_, -, rfl⟩ := List.mem_map.1 hrow
            exact ha
          rw [List.filter_cons_of_pos (by simp [hothers]), List.map_cons, List.cons_append]
          by_cases ha : a.key ∈ seen
          · rw [distinctRows_cons_of_mem ha, distinctRows_cons_of_mem ha,
              distinctRows_append_of_mem (hcopies ha), ih]
          · rw [distinctRows_cons_of_not_mem ha, distinctRows_cons_of_not_mem ha,
              distinctRows_append_of_mem (hcopies List.mem_cons_self), ih]

/-! ## Joins over the same columns -/

namespace Schema

/-- Two schemas have columns of the same names, in any order, and there are some. -/
structure SameNames (left right : Schema) : Prop where
  ne_nil : left ≠ []
  mem_iff : ∀ name, name ∈ left.names ↔ name ∈ right.names

namespace SameNames

/-- Columns that can be matched are there. -/
theorem names_ne_nil (h : left.SameNames right) : left.names ≠ [] :=
  mt List.map_eq_nil_iff.1 h.ne_nil

/-- All columns are in common. -/
theorem common_eq (h : left.SameNames right) : left.common right = left.names :=
  List.filter_eq_self.2 fun name hname => by simpa using (h.mem_iff name).1 hname

/-- So none is left on the right side. -/
theorem without_eq (h : left.SameNames right) : right.without left.names = [] := by
  refine List.filter_eq_nil_iff.2 fun column hcolumn => ?_
  have hname : column.name ∈ right.names := mem_names_iff.2 ⟨column, hcolumn, rfl⟩
  simpa using (h.mem_iff column.name).2 hname

/-- Columns can be matched in the order of the left side if those of the same names can. -/
theorem checkMatch_select_iff (h : left.SameNames right) :
    Plan.checkMatch left.names left (right.select left.names) = .ok () ↔ left.Joinable right := by
  rw [← checkMatch_common_iff (h.common_eq ▸ h.names_ne_nil), h.common_eq,
    Plan.checkMatch_eq_ok_iff, Plan.checkMatch_eq_ok_iff]
  refine and_congr_right fun _ => and_congr_right fun _ => ?_
  refine forall₂_congr fun name hname => ?_
  rw [column?_select (fun name hname => (h.mem_iff name).1 hname) hname]

/-- Names that are no wildcards can be aligned. -/
theorem alignable (h : left.SameNames right) (hleft : left.names.Nodup) (hright : right.names.Nodup)
    (hnames : left.ByName) : left.Alignable right where
  same := sameColumns_of_perm ((List.perm_ext_iff_of_nodup hleft hright).2 h.mem_iff)
  referred := referredAll?_eq hnames
  nodup := hleft

end SameNames

end Schema

namespace Frame

/-- A row matches the same rows before their columns are put in another order. -/
theorem hasMatch_select (hne : names ≠ []) (hnames : ∀ name ∈ names, name ∈ g.schema.names) :
    hasMatch names f (g.select names) row = hasMatch names f g row := by
  have hcells (b : Row) : rowsMatch names f.schema (g.schema.select names) row
      (b.cells g.schema names) = rowsMatch names f.schema g.schema row b := by
    rw [Bool.eq_iff_iff, rowsMatch, rowsMatch, List.all_eq_true, List.all_eq_true]
    refine forall₂_congr fun name hname => ?_
    rw [Row.cell_cells (Schema.names_select hnames) hname]
  simp only [hasMatch, select, List.isEmpty_eq_false_iff.2 hne, Bool.false_eq_true, if_false,
    List.any_map, Function.comp_def, hcells]

/-- A natural join over the same columns lists every row as often as it has a match. -/
theorem naturalJoin_eq (h : f.schema.SameNames g.schema) :
    f.naturalJoin g = ⟨f.schema, f.rows.flatMap fun a =>
      (g.rows.filter (rowsMatch f.schema.names f.schema g.schema a)).map fun _ => a⟩ := by
  have hnone (b : Row) : b.cells g.schema (Schema.names []) = [] := rfl
  simp only [naturalJoin, innerJoin, h.common_eq, h.without_eq, hnone, List.append_nil]

/-- Without repetitions it lists the rows that have a match. -/
theorem distinct_naturalJoin (h : f.schema.SameNames g.schema) :
    (f.naturalJoin g).distinct =
      (f.semiJoin f.schema.names (g.select f.schema.names)).distinct := by
  have hmatch (row : Row) :
      (!(g.rows.filter (rowsMatch f.schema.names f.schema g.schema row)).isEmpty) =
        hasMatch f.schema.names f (g.select f.schema.names) row := by
    rw [hasMatch_select h.names_ne_nil fun name hname => (h.mem_iff name).1 hname, hasMatch,
      Bool.eq_iff_iff]
    simp
  rw [naturalJoin_eq h, distinct, distinctRows_flatMap_map]
  simp only [hmatch]
  rfl

end Frame

/-! ## Evaluating both -/

/-- An intersection over the same columns is a natural join without repetitions. -/
theorem setResult_intersect_iff_naturalJoin (hfirst : first.Rectangular)
    (hsecond : second.Rectangular) (h : first.schema.SameNames second.schema) :
    SetResult first second .intersect frame ↔
      first.schema.Joinable second.schema ∧ (first.naturalJoin second).distinct = frame := by
  rw [setResult_intersect_iff, h.checkMatch_select_iff, Frame.distinct_naturalJoin h]
  refine and_iff_right_of_imp fun hjoinable => ?_
  have hnames := Plan.isWildcard_of_checkMatch (h.checkMatch_select_iff.2 hjoinable.1)
  exact h.alignable hfirst.names_nodup hsecond.names_nodup hnames

/-- The intersection and the natural join of operands over columns of the same names, in any order.
They can be evaluated together, both have the columns of the left operand, and the intersection is
the natural join without repetitions: it has the same rows, each of them once. -/
theorem evaluate_intersect_naturalJoin (hcatalog : catalog.Rectangular)
    (hsame : ∀ first second, evaluate catalog lhs = .ok first → evaluate catalog rhs = .ok second →
      first.schema ≠ [] ∧ ∀ name, name ∈ first.schema.names ↔ name ∈ second.schema.names) :
    ((∃ both, evaluate catalog (.setOp .intersect lhs rhs inner) = .ok both) ↔
      ∃ joined, evaluate catalog (.join .naturalJoin lhs rhs outer) = .ok joined) ∧
    ∀ first both joined, evaluate catalog lhs = .ok first →
      evaluate catalog (.setOp .intersect lhs rhs inner) = .ok both →
      evaluate catalog (.join .naturalJoin lhs rhs outer) = .ok joined →
      both.schema = first.schema ∧ joined.schema = first.schema ∧ joined.distinct = both ∧
        both.RowsDiffer ∧ ∀ row, both.Contains row ↔ joined.Contains row := by
  have hnames {f g : Frame} (hf : evaluate catalog lhs = .ok f)
      (hg : evaluate catalog rhs = .ok g) : f.schema.SameNames g.schema :=
    ⟨(hsame f g hf hg).1, (hsame f g hf hg).2⟩
  have hresult {f g frame : Frame} (hf : evaluate catalog lhs = .ok f)
      (hg : evaluate catalog rhs = .ok g) : SetResult f g .intersect frame ↔
        f.schema.Joinable g.schema ∧ (f.naturalJoin g).distinct = frame :=
    setResult_intersect_iff_naturalJoin (evaluate_rectangular hcatalog hf)
      (evaluate_rectangular hcatalog hg) (hnames hf hg)
  refine ⟨⟨?_, ?_⟩, fun first both joined hfirst hboth hjoined => ?_⟩
  · rintro ⟨both, hboth⟩
    obtain ⟨f, g, hf, hg, h⟩ := evaluate_setOp_eq_ok_iff.1 hboth
    exact ⟨_, (evaluate_naturalJoin_eq_ok_iff hcatalog).2 ⟨f, g, hf, hg, ((hresult hf hg).1 h).1,
      rfl⟩⟩
  · rintro ⟨joined, hjoined⟩
    obtain ⟨f, g, hf, hg, h, -⟩ := (evaluate_naturalJoin_eq_ok_iff hcatalog).1 hjoined
    exact ⟨_, evaluate_setOp_eq_ok_iff.2 ⟨f, g, hf, hg, (hresult hf hg).2 ⟨h, rfl⟩⟩⟩
  · obtain ⟨f, g, hf, hg, -, rfl⟩ := (evaluate_naturalJoin_eq_ok_iff hcatalog).1 hjoined
    cases hfirst.symm.trans hf
    obtain ⟨-, rfl⟩ := (hresult hf hg).1 ((evaluate_setOp_iff_result hf hg).1 hboth)
    have hschema := congrArg Frame.schema (Frame.naturalJoin_eq (hnames hf hg))
    refine ⟨hschema, hschema, rfl, Frame.rowsDiffer_distinct _, fun row => ?_⟩
    rw [Frame.contains_iff, Frame.contains_iff, Frame.mem_keys_distinct]

/-- Relations with their columns in different orders, integers of different sizes, missing cells,
NaNs, zeros of either sign and repeated rows. -/
theorem evaluate_intersect_naturalJoin_permuted :
    let zero : Cell := .float ⟨0⟩
    let negativeZero : Cell := .float ⟨0x8000000000000000⟩
    let nan : Cell := .float ⟨0x7FF8000000000000⟩
    let negativeNan : Cell := .float ⟨0xFFF8000000000000⟩
    let table : Frame := ⟨[⟨['A'], .int32⟩, ⟨['B'], .float64⟩],
      [[.missing, nan], [.int 2, nan], [.int 1, negativeZero], [.int 1, zero], [.int 3, zero]]⟩
    let other : Frame := ⟨[⟨['B'], .float64⟩, ⟨['A'], .int64⟩],
      [[zero, .int 1], [nan, .missing], [negativeZero, .int 1], [negativeNan, .int 2]]⟩
    let catalog : Catalog := ⟨[(['R'], table), (['S'], other)]⟩
    let both : Expr := .setOp .intersect (.named ['R']) (.named ['S']) []
    let joined : Expr := .join .naturalJoin (.named ['R']) (.named ['S']) []
    catalog.Rectangular ∧
      (∀ first second, evaluate catalog (.named ['R']) = .ok first →
        evaluate catalog (.named ['S']) = .ok second →
        first.schema ≠ [] ∧ ∀ name, name ∈ first.schema.names ↔ name ∈ second.schema.names) ∧
      evaluate catalog joined = .ok ⟨table.schema, [[.int 2, nan], [.int 1, negativeZero],
        [.int 1, negativeZero], [.int 1, zero], [.int 1, zero]]⟩ ∧
      evaluate catalog both = .ok ⟨table.schema, [[.int 2, nan], [.int 1, negativeZero]]⟩ := by
  intro zero negativeZero nan negativeNan table other catalog both joined
  have hcatalog : catalog.Rectangular := fun _ _ => Catalog.forall_of_get?
    (List.forall_mem_cons.2 ⟨⟨by decide, by decide⟩,
      List.forall_mem_singleton.2 ⟨by decide, by decide⟩⟩)
  have hsame : ∀ first second, evaluate catalog (.named ['R']) = .ok first →
      evaluate catalog (.named ['S']) = .ok second →
      first.schema ≠ [] ∧ ∀ name, name ∈ first.schema.names ↔ name ∈ second.schema.names := by
    intro first second hfirst hsecond
    have htable : evaluate catalog (.named ['R']) = .ok table := rfl
    have hother : evaluate catalog (.named ['S']) = .ok other := rfl
    cases htable.symm.trans hfirst
    cases hother.symm.trans hsecond
    have hperm : table.schema.names.Perm other.schema.names := by decide
    exact ⟨by decide, fun _ => hperm.mem_iff⟩
  have hjoined : evaluate catalog joined = .ok ⟨table.schema, [[.int 2, nan],
      [.int 1, negativeZero], [.int 1, negativeZero], [.int 1, zero], [.int 1, zero]]⟩ := by
    decide +kernel
  obtain ⟨hexists, hresults⟩ := @evaluate_intersect_naturalJoin catalog (.named ['R'])
    (.named ['S']) [] [] hcatalog hsame
  obtain ⟨frame, hboth⟩ := hexists.2 ⟨_, hjoined⟩
  obtain ⟨-, -, hdistinct, -⟩ := hresults table frame _ rfl hboth hjoined
  refine ⟨hcatalog, hsame, hjoined, hboth.trans (congrArg Except.ok (hdistinct.symm.trans ?_))⟩
  decide +kernel

end RelQuery
