import RelQuery.Proofs.Table.Rectangular
import Mathlib.Data.List.FinRange
import Mathlib.Data.List.Nodup

/-!
# Repeated rows

Two rows are repetitions of each other if their cells are, column by column: a missing cell repeats
a missing one, every NaN every other, and the zeros each other. That is what the keys of rows are
for (`Row.key_eq_iff_repeats`). Leaving out repetitions keeps all keys, each of them once, in the
row that occurs first (`distinctRows_eq_map`). Rows that are put together differ if they differ in
either part, so that products and joins of frames without repetitions have none either. In a join
this rests on the columns that are matched: they are left out on the right, but there the rows agree
that match the same row on the left.
-/

namespace RelQuery

/-- Two cells are repetitions of each other: they are the same, or neither is a number, or both are
zero. -/
inductive Cell.Repeats : Cell → Cell → Prop where
  | refl (cell : Cell) : Repeats cell cell
  | nan {x y : Binary64} (hx : x.isNaN) (hy : y.isNaN) : Repeats (.float x) (.float y)
  | zero {x y : Binary64} (hx : x.magnitude = 0) (hy : y.magnitude = 0) :
      Repeats (.float x) (.float y)

/-- Two rows are repetitions of each other if their cells are, column by column. -/
def Row.Repeats (a b : Row) : Prop :=
  List.Forall₂ Cell.Repeats a b

/-- No row is a repetition of another. -/
def Frame.RowsDiffer (frame : Frame) : Prop :=
  frame.rows.Pairwise fun a b => ¬ a.Repeats b

/-- What the rows of a frame are equal to. -/
def Frame.keys (frame : Frame) : List (List Cell.Key) :=
  frame.rows.map Row.key

variable {schema : Schema} {frame left right : Frame} {rows : List Row} {row a b c : Row}
variable {wanted : List Text} {seen : List (List Cell.Key)} {key : List Cell.Key}
variable {cell other : Cell} {x y : Binary64}

/-! ## Numbers in their order -/

namespace Binary64

/-- Without its sign a number has 63 bits. -/
theorem magnitude_lt : x.magnitude < 0x8000000000000000 :=
  Nat.mod_lt _ (by decide)

/-- A number is given by its size and its sign. -/
theorem eq_iff : x = y ↔ x.magnitude = y.magnitude ∧ x.isNegative = y.isNegative := by
  have hx := x.word.toNat_lt
  have hy := y.word.toNat_lt
  have hword : x = y ↔ x.word.toNat = y.word.toNat := by
    cases x
    cases y
    simp [UInt64.toNat_inj]
  simp only [hword, magnitude, isNegative, decide_eq_decide]
  omega

/-- The bits of what is no number are above those of infinity. -/
theorem isNaN_iff : x.isNaN ↔ 0x7FF0000000000000 < x.magnitude := by
  unfold isNaN infinityBits
  exact decide_eq_true_iff

/-- Numbers have the same place in the order if they are the same, if neither is a number, or if
both are zero. -/
theorem rank_eq_rank_iff :
    x.rank = y.rank ↔ x = y ∨ x.isNaN ∧ y.isNaN ∨ x.magnitude = 0 ∧ y.magnitude = 0 := by
  have hx := magnitude_lt (x := x)
  have hy := magnitude_lt (x := y)
  simp only [eq_iff, rank, isNaN_iff]
  cases x.isNegative <;> cases y.isNegative <;>
    simp only [Bool.false_eq_true, if_true, if_false, and_true, and_false, reduceCtorEq,
      false_or] <;>
    split_ifs <;> omega

end Binary64

/-! ## Keys -/

/-- Only a missing cell is equal to missing ones. -/
theorem Cell.key_eq_missing_iff : cell.key = .missing ↔ cell = .missing := by
  cases cell <;> simp [Cell.key]

/-- Cells with equal keys are repetitions of each other. -/
theorem Cell.key_eq_iff : cell.key = other.key ↔ cell.Repeats other := by
  constructor
  · intro h
    cases cell with
    | float x =>
        cases other with
        | float y =>
            obtain rfl | ⟨hx, hy⟩ | ⟨hx, hy⟩ := Binary64.rank_eq_rank_iff.1 (Key.float.inj h)
            · exact .refl _
            · exact .nan hx hy
            · exact .zero hx hy
        | _ => cases h
    | missing =>
        rw [key_eq_missing_iff.1 h.symm]
        exact .refl _
    | int n =>
        cases other <;> cases h
        exact .refl _
    | truth b =>
        cases other <;> cases h
        exact .refl _
    | text s =>
        cases other <;> cases h
        exact .refl _
  · rintro (_ | ⟨hx, hy⟩ | ⟨hx, hy⟩)
    · rfl
    · exact congrArg Key.float (Binary64.rank_eq_rank_iff.2 (.inr (.inl ⟨hx, hy⟩)))
    · exact congrArg Key.float (Binary64.rank_eq_rank_iff.2 (.inr (.inr ⟨hx, hy⟩)))

/-- Rows are equal if they are repetitions of each other. -/
theorem Row.key_eq_iff_repeats : a.key = b.key ↔ a.Repeats b := by
  induction a generalizing b with
  | nil => cases b <;> simp [Row.key, Row.Repeats]
  | cons cell a ih =>
      cases b with
      | nil => simp [Row.key, Row.Repeats]
      | cons other b =>
          have hrest : a.map Cell.key = b.map Cell.key ↔ List.Forall₂ Cell.Repeats a b := ih
          simp [Row.key, Row.Repeats, Cell.key_eq_iff, hrest]

/-- No row repeats another if what they are equal to has no repetition. -/
theorem Frame.rowsDiffer_iff : frame.RowsDiffer ↔ frame.keys.Nodup := by
  rw [RowsDiffer, keys, List.Nodup, List.pairwise_map]
  simp only [← Row.key_eq_iff_repeats, ne_eq]

/-- Cells match if they are equal and not missing. -/
theorem Cell.matching_iff_key : cell.matching other ↔ cell ≠ .missing ∧ cell.key = other.key := by
  simp [Cell.matching, Cell.key_eq_missing_iff]

/-- Repetitions of a row match the same rows. -/
theorem Frame.hasMatch_congr (h : a.key = b.key) :
    hasMatch wanted left right a = hasMatch wanted left right b := by
  simp only [hasMatch, rowsMatch, Cell.matching, Row.key_cell, h]

/-- What some cells of a row are equal to is made of what each is equal to. -/
theorem Row.key_cells :
    (row.cells schema wanted).key = wanted.map fun name => (row.cell schema name).key := by
  simp [Row.cells, Row.key]

/-- Rows of which every cell is looked up are equal if these cells are. -/
theorem Row.key_eq_of_cells (hb : b.length = schema.length) (hc : c.length = schema.length)
    (hnodup : schema.names.Nodup)
    (hwanted : ∀ name ∈ wanted, (b.cell schema name).key = (c.cell schema name).key)
    (hothers : (b.cells schema (schema.without wanted).names).key =
      (c.cells schema (schema.without wanted).names).key) : b.key = c.key := by
  rw [Row.key_cells, Row.key_cells] at hothers
  refine Row.key_eq_key hnodup hb hc fun name hname => ?_
  by_cases hmem : name ∈ wanted
  · exact hwanted name hmem
  · have hother : name ∈ (schema.without wanted).names := by
      rw [Schema.names_without, List.mem_filter]
      simp [hname, hmem]
    exact List.map_inj_left.1 hothers name hother

/-! ## Leaving out repetitions -/

/-- A row that was seen before is left out. -/
theorem distinctRows_cons_of_mem (h : row.key ∈ seen) :
    distinctRows seen (row :: rows) = distinctRows seen rows :=
  if_pos (by simpa using h)

/-- Another one is kept, and has been seen from then on. -/
theorem distinctRows_cons_of_not_mem (h : row.key ∉ seen) :
    distinctRows seen (row :: rows) = row :: distinctRows (row.key :: seen) rows :=
  if_neg (by simpa using h)

/-- The keys of the rows that are kept are those that were not seen before. -/
theorem mem_keys_distinctRows :
    key ∈ (distinctRows seen rows).map Row.key ↔ key ∈ rows.map Row.key ∧ key ∉ seen := by
  induction rows generalizing seen with
  | nil => simp [distinctRows]
  | cons first rows ih =>
      rw [distinctRows, List.map_cons, List.mem_cons]
      split
      · rename_i hseen
        have hseen : first.key ∈ seen := by simpa using hseen
        rw [ih]
        constructor
        · rintro ⟨hmem, hkey⟩
          exact ⟨.inr hmem, hkey⟩
        · rintro ⟨rfl | hmem, hkey⟩
          · exact absurd hseen hkey
          · exact ⟨hmem, hkey⟩
      · rename_i hseen
        have hseen : first.key ∉ seen := by simpa using hseen
        rw [List.map_cons, List.mem_cons, ih, List.mem_cons, not_or]
        constructor
        · rintro (rfl | ⟨hmem, -, hkey⟩)
          · exact ⟨.inl rfl, hseen⟩
          · exact ⟨.inr hmem, hkey⟩
        · rintro ⟨rfl | hmem, hkey⟩
          · exact .inl rfl
          · by_cases hfirst : key = first.key
            · exact .inl hfirst
            · exact .inr ⟨hmem, hfirst, hkey⟩

/-- Of equal rows one is left. -/
theorem nodup_keys_distinctRows : ((distinctRows seen rows).map Row.key).Nodup := by
  induction rows generalizing seen with
  | nil => exact .nil
  | cons first rows ih =>
      rw [distinctRows]
      split
      · exact ih
      · refine List.nodup_cons.2 ⟨fun hmem => ?_, ih⟩
        exact (mem_keys_distinctRows.1 hmem).2 List.mem_cons_self

/-- It does not matter whether repetitions or the rows that fail a test are left out first, if the
test does not tell repetitions apart. -/
theorem distinctRows_filter {test : Row → Bool} {other : List (List Cell.Key)}
    (htest : ∀ a b : Row, a.key = b.key → test a = test b)
    (hseen : ∀ row ∈ rows, test row → (row.key ∈ other ↔ row.key ∈ seen)) :
    distinctRows other (rows.filter test) = (distinctRows seen rows).filter test := by
  induction rows generalizing seen other with
  | nil => rfl
  | cons first rows ih =>
      obtain ⟨hfirst, hrows⟩ := List.forall_mem_cons.1 hseen
      by_cases hkeep : test first
      · rw [List.filter_cons_of_pos hkeep]
        by_cases hmem : first.key ∈ seen
        · rw [distinctRows_cons_of_mem hmem, distinctRows_cons_of_mem ((hfirst hkeep).2 hmem)]
          exact ih hrows
        · rw [distinctRows_cons_of_not_mem hmem,
            distinctRows_cons_of_not_mem (mt (hfirst hkeep).1 hmem), List.filter_cons_of_pos hkeep]
          refine congrArg (first :: ·) (ih fun row hrow hrowkeep => ?_)
          simp only [List.mem_cons, hrows row hrow hrowkeep]
      · rw [List.filter_cons_of_neg hkeep]
        by_cases hmem : first.key ∈ seen
        · rw [distinctRows_cons_of_mem hmem]
          exact ih hrows
        · rw [distinctRows_cons_of_not_mem hmem, List.filter_cons_of_neg hkeep]
          refine ih fun row hrow hrowkeep => ?_
          -- A row that passes the test is no repetition of the first one.
          have hne : row.key ≠ first.key := fun hkey => hkeep (htest _ _ hkey ▸ hrowkeep)
          simp only [List.mem_cons, hne, false_or, hrows row hrow hrowkeep]

/-! ## First occurrences -/

/-- A row that was not seen before stands at this position and repeats none in front of it. -/
def FirstAt (seen : List (List Cell.Key)) (rows : List Row) (i : Fin rows.length) : Prop :=
  (rows.get i).key ∉ seen ∧ ∀ j < i, (rows.get j).key ≠ (rows.get i).key

/-- Decided by looking at the rows in front. -/
instance : DecidablePred (FirstAt seen rows) := fun i =>
  decidable_of_iff (seen.contains (rows.get i).key = false ∧
    ∀ j < i, (rows.get j).key ≠ (rows.get i).key) (by simp [FirstAt])

/-- A later row is first if it is among the later ones, where the row in front counts as seen. -/
theorem firstAt_succ_iff {i : Fin rows.length} :
    FirstAt seen (row :: rows) i.succ ↔ FirstAt (row.key :: seen) rows i := by
  have hbefore : (∀ j < i.succ, ((row :: rows).get j).key ≠ (rows.get i).key) ↔
      row.key ≠ (rows.get i).key ∧ ∀ j < i, (rows.get j).key ≠ (rows.get i).key := by
    simp [Fin.forall_fin_succ]
  have hseen : (rows.get i).key ∉ row.key :: seen ↔
      row.key ≠ (rows.get i).key ∧ (rows.get i).key ∉ seen := by
    rw [List.mem_cons, not_or, ne_comm]
  rw [FirstAt, FirstAt, hseen, and_assoc, and_left_comm]
  exact and_congr_right fun _ => hbefore

/-- A row that was seen need not be seen twice. -/
theorem firstAt_cons_of_mem {i : Fin rows.length} (h : key ∈ seen) :
    FirstAt (key :: seen) rows i ↔ FirstAt seen rows i := by
  refine and_congr_left fun _ => not_congr ⟨?_, List.mem_cons_of_mem _⟩
  rintro (_ | hmem)
  · exact h
  · assumption

/-- The rows that are kept are those that occur first. -/
theorem distinctRows_eq_map : distinctRows seen rows =
    ((List.finRange rows.length).filter (FirstAt seen rows)).map rows.get := by
  induction rows generalizing seen with
  | nil => rfl
  | cons first rows ih =>
      have hrest : (((List.finRange rows.length).map Fin.succ).filter
          (FirstAt seen (first :: rows))).map (first :: rows).get =
            distinctRows (first.key :: seen) rows := by
        rw [ih, List.filter_map, List.map_map]
        simp only [Function.comp_def, firstAt_succ_iff]
        rfl
      change _ = ((List.finRange (rows.length + 1)).filter _).map _
      rw [distinctRows, List.finRange_succ]
      split
      · rename_i hseen
        rw [List.filter_cons_of_neg (by simpa [FirstAt] using hseen), hrest, ih, ih]
        simp only [firstAt_cons_of_mem (by simpa using hseen)]
      · rename_i hseen
        rw [List.filter_cons_of_pos (by simpa [FirstAt] using hseen), List.map_cons, hrest]
        rfl

/-- The rows of a frame stand in another one in the same order, and there none of them repeats a row
in front of it. -/
def Frame.ListsFirsts (frame whole : Frame) : Prop :=
  ∃ positions : List (Fin whole.rows.length), positions.Pairwise (· < ·) ∧
    frame.rows = positions.map whole.rows.get ∧
    ∀ i ∈ positions, ∀ j < i, ¬ (whole.rows.get j).Repeats (whole.rows.get i)

/-- Such rows differ. -/
theorem Frame.ListsFirsts.rowsDiffer {whole : Frame} (h : frame.ListsFirsts whole) :
    frame.RowsDiffer := by
  obtain ⟨positions, hsorted, hrows, hfirst⟩ := h
  rw [RowsDiffer, hrows, List.pairwise_map]
  exact hsorted.imp_of_mem fun {i j} _ hj hlt => hfirst j hj i hlt

/-- Rows without repetitions are first occurrences, and so are those of them that pass a test. -/
theorem Frame.listsFirsts_filter (frame : Frame) (test : Row → Bool) :
    (frame.distinct.filter test).ListsFirsts frame := by
  refine ⟨((List.finRange frame.rows.length).filter (FirstAt [] frame.rows)).filter
    (test ∘ frame.rows.get), ?_, ?_, ?_⟩
  · exact ((List.pairwise_lt_finRange _).filter _).filter _
  · rw [← List.filter_map, ← distinctRows_eq_map]
    rfl
  · intro i hi j hj
    have hfirst := of_decide_eq_true (List.mem_filter.1 (List.mem_filter.1 hi).1).2
    exact mt Row.key_eq_iff_repeats.2 (hfirst.2 j hj)

/-! ## Rows put together -/

/-- A row and another one behind it differ from all others if the first rows differ, and those that
are put behind the same row do. -/
theorem nodup_keys_pairs {others : Row → List Row} {length : Nat}
    (hrows : (rows.map Row.key).Nodup) (hlength : ∀ a ∈ rows, a.length = length)
    (hothers : ∀ a ∈ rows, ((others a).map Row.key).Nodup) :
    ((rows.flatMap fun a => (others a).map fun b => a ++ b).map Row.key).Nodup := by
  rw [List.map_flatMap, List.nodup_flatMap]
  refine ⟨fun a ha => ?_, (List.pairwise_map.1 hrows).imp_of_mem ?_⟩
  · have hkeys : ((others a).map fun b => a ++ b).map Row.key =
        ((others a).map Row.key).map fun key => a.key ++ key := by
      simp [Function.comp_def]
    rw [hkeys]
    exact (hothers a ha).map (List.append_right_injective a.key)
  · intro a c ha hc hne key hkey hkey'
    simp only [List.map_map, List.mem_map, Function.comp_apply, Row.key_append] at hkey hkey'
    obtain ⟨b, -, rfl⟩ := hkey
    obtain ⟨d, -, hd⟩ := hkey'
    refine hne (List.append_inj_left hd.symm ?_)
    rw [Row.length_key, Row.length_key, hlength a ha, hlength c hc]

namespace Frame

/-- Without repetitions there are the same rows, but for equal ones. -/
theorem mem_keys_distinct : key ∈ frame.distinct.keys ↔ key ∈ frame.keys := by
  have hkeys : key ∈ frame.distinct.keys ↔ key ∈ frame.keys ∧ key ∉ [] := mem_keys_distinctRows
  simpa using hkeys

/-- And no row repeats another. -/
theorem rowsDiffer_distinct (frame : Frame) : frame.distinct.RowsDiffer :=
  rowsDiffer_iff.2 nodup_keys_distinctRows

/-- Every row repeats exactly one of the rows that are kept. -/
theorem existsUnique_distinct (hrow : row ∈ frame.rows) :
    ∃! kept, kept ∈ frame.distinct.rows ∧ row.Repeats kept := by
  have hkey : row.key ∈ frame.distinct.keys := mem_keys_distinct.2 (List.mem_map_of_mem hrow)
  obtain ⟨kept, hkept, hsame⟩ := List.mem_map.1 hkey
  refine ⟨kept, ⟨hkept, Row.key_eq_iff_repeats.1 hsame.symm⟩, ?_⟩
  rintro other ⟨hother, hrepeats⟩
  have hnodup := rowsDiffer_iff.1 (rowsDiffer_distinct frame)
  have hkeys := (Row.key_eq_iff_repeats.2 hrepeats).symm.trans hsame.symm
  exact List.inj_on_of_nodup_map hnodup hother hkept hkeys

/-- A test that does not tell equal rows apart may come before or after. -/
theorem distinct_filter {test : Row → Bool} (htest : ∀ a b : Row, a.key = b.key → test a = test b) :
    (frame.filter test).distinct = frame.distinct.filter test := by
  simp only [distinct, filter, distinctRows_filter htest fun _ _ _ => Iff.rfl]

namespace RowsDiffer

/-- Leaving out rows makes no repetition. -/
theorem filter (h : frame.RowsDiffer) (test : Row → Bool) : (frame.filter test).RowsDiffer :=
  List.Pairwise.sublist List.filter_sublist h

/-- Neither does combining all rows, since the cells of both are still there. -/
theorem product (hl : left.RowsDiffer) (hr : right.RowsDiffer) (hleft : left.Rectangular) :
    (left.product right).RowsDiffer :=
  rowsDiffer_iff.2 <| nodup_keys_pairs (rowsDiffer_iff.1 hl) hleft.length_eq
    fun _ _ => rowsDiffer_iff.1 hr

/-- Nor does joining them: the columns of the right side that are left out have cells equal to those
on the left. -/
theorem innerJoin (hl : left.RowsDiffer) (hr : right.RowsDiffer) (hleft : left.Rectangular)
    (hright : right.Rectangular) : (left.innerJoin wanted right).RowsDiffer := by
  have hrows : (left.innerJoin wanted right).rows = left.rows.flatMap fun a =>
      ((right.rows.filter (rowsMatch wanted left.schema right.schema a)).map fun b =>
        b.cells right.schema (right.schema.without wanted).names).map fun c => a ++ c := by
    simp only [Frame.innerJoin, List.map_map]
    rfl
  rw [rowsDiffer_iff, keys, hrows]
  refine nodup_keys_pairs (rowsDiffer_iff.1 hl) hleft.length_eq fun a _ => ?_
  have hpairs := hr.filter (rowsMatch wanted left.schema right.schema a)
  rw [List.map_map]
  refine List.pairwise_map.2 (hpairs.imp_of_mem fun {b c} hb hc hne hcells => ?_)
  obtain ⟨hb, hmatchb⟩ := List.mem_filter.1 hb
  obtain ⟨hc, hmatchc⟩ := List.mem_filter.1 hc
  -- Both rows match the same one, so they agree in the columns that were matched.
  have hwanted : ∀ name ∈ wanted,
      (b.cell right.schema name).key = (c.cell right.schema name).key := by
    intro name hname
    have hleftb := (Cell.matching_iff_key.1 (List.all_eq_true.1 hmatchb name hname)).2
    have hleftc := (Cell.matching_iff_key.1 (List.all_eq_true.1 hmatchc name hname)).2
    exact hleftb.symm.trans hleftc
  exact hne <| Row.key_eq_iff_repeats.1 <| Row.key_eq_of_cells (hright.length_eq b hb)
    (hright.length_eq c hc) hright.names_nodup hwanted hcells

end RowsDiffer

end Frame

end RelQuery
