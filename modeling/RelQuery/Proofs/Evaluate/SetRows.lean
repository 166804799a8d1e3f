import RelQuery.Proofs.Evaluate.Results
import RelQuery.Proofs.Table.Catalog
import RelQuery.Proofs.Table.Repetitions

/-!
# The rows of set operators

What a set operator makes of two frames is put together from the left one and the right one with its
columns in the order of the left one; `setResult_union_iff` and its like say how, and what is asked
of the columns. A row is among the rows of a frame if it repeats one of them. For union that is all:
its rows are those of either operand. Intersection and difference look for a match instead, and a
missing cell matches nothing, so that the two notions part exactly on rows with a missing cell:
intersection has none of these, whatever the operands share, and difference keeps all of them
(`evaluate_setOp_contains`).
-/

namespace RelQuery

/-- A row is among the rows of a frame if it repeats one of them. -/
def Frame.Contains (frame : Frame) (row : Row) : Prop :=
  ∃ other ∈ frame.rows, row.Repeats other

variable {schema : Schema} {frame first second aligned : Frame} {row a b : Row} {cell : Cell}
variable {key : List Cell.Key} {catalog : Catalog} {lhs rhs : Expr} {source : Text}
variable {op : Operator}

/-! ## Rows by their keys -/

/-- A row is in a frame if an equal one is. -/
theorem Frame.contains_iff : frame.Contains row ↔ row.key ∈ frame.keys := by
  simp only [Contains, keys, List.mem_map, ← Row.key_eq_iff_repeats, eq_comm]

/-- Decided by comparing with all rows. -/
instance (frame : Frame) (row : Row) : Decidable (frame.Contains row) :=
  decidable_of_iff _ Frame.contains_iff.symm

/-- A row has a missing cell if what it is equal to has one. -/
theorem Row.missing_mem_key : .missing ∈ row.key ↔ .missing ∈ row := by
  simp [Row.key, Cell.key_eq_missing_iff]

/-- The cells of a row are those in its columns. -/
theorem Row.mem_iff_cell (hnodup : schema.names.Nodup) (hlength : row.length = schema.length) :
    cell ∈ row ↔ ∃ name ∈ schema.names, row.cell schema name = cell := by
  rw [← List.mem_map, Row.map_cell hnodup hlength]

/-- A test that says something about keys keeps the keys of which it is true. -/
theorem Frame.mem_keys_filter {test : Row → Bool} {P : List Cell.Key → Prop}
    (h : ∀ row ∈ frame.rows, test row ↔ P row.key) :
    key ∈ (frame.filter test).keys ↔ key ∈ frame.keys ∧ P key := by
  simp only [keys, filter, List.mem_map, List.mem_filter]
  constructor
  · rintro ⟨row, ⟨hrow, htest⟩, rfl⟩
    exact ⟨⟨row, hrow, rfl⟩, (h row hrow).1 htest⟩
  · rintro ⟨⟨row, hrow, rfl⟩, hP⟩
    exact ⟨row, ⟨hrow, (h row hrow).2 hP⟩, rfl⟩

/-- The rows of the second frame are lined up with those of the first. -/
theorem Frame.mem_keys_append : key ∈ (first.append second).keys ↔
    key ∈ first.keys ∨ key ∈ (second.select first.schema.names).keys := by
  simp [keys, append]

/-! ## Matching in all columns -/

/-- Rows match in all columns if they are equal and no cell is missing. -/
theorem Frame.Rectangular.rowsMatch_iff_key (hfirst : first.Rectangular)
    (hsecond : second.Rectangular) (hnames : second.schema.names = first.schema.names)
    (ha : a ∈ first.rows) (hb : b ∈ second.rows) :
    rowsMatch first.schema.names first.schema second.schema a b ↔
      .missing ∉ a.key ∧ a.key = b.key := by
  have hlength := hfirst.length_eq a ha
  have hkey := Row.key_eq_map hsecond.names_nodup (hsecond.length_eq b hb)
  rw [hnames] at hkey
  rw [Row.missing_mem_key, Row.mem_iff_cell hfirst.names_nodup hlength, hkey,
    Row.key_eq_map hfirst.names_nodup hlength, List.map_inj_left, rowsMatch, List.all_eq_true]
  simp only [Cell.matching_iff_key, not_exists, not_and, ← forall_and]

/-- A row matches some row in all columns if it is among the rows and no cell is missing. -/
theorem Frame.Rectangular.hasMatch_iff_key (hfirst : first.Rectangular)
    (hsecond : second.Rectangular) (hnames : second.schema.names = first.schema.names)
    (ha : a ∈ first.rows) :
    hasMatch first.schema.names first second a ↔ .missing ∉ a.key ∧ a.key ∈ second.keys := by
  simp only [hasMatch, List.any_eq_true, keys, List.mem_map]
  constructor
  · rintro ⟨b, hb, hmatch⟩
    obtain ⟨hmissing, hkey⟩ := (hfirst.rowsMatch_iff_key hsecond hnames ha hb).1 hmatch
    exact ⟨hmissing, b, hb, hkey.symm⟩
  · rintro ⟨hmissing, b, hb, hkey⟩
    exact ⟨b, hb, (hfirst.rowsMatch_iff_key hsecond hnames ha hb).2 ⟨hmissing, hkey.symm⟩⟩

/-! ## Results of set operators -/

/-- The columns of one schema can be brought into the order of another one with the same names. -/
structure Schema.Alignable (left right : Schema) : Prop where
  same : sameColumns left.names right.names
  referred : right.referredAll? left.names = some left.names
  nodup : left.names.Nodup

/-- Together the names of the columns refer to each column once. -/
def Schema.ReferredOnce (schema : Schema) : Prop :=
  ∃ referred, schema.referredAll? schema.names = some referred ∧ schema.names.Perm referred

/-- Rows over the one schema can be put behind rows over the other: the columns are the same in any
order, and the names refer to each of them once. -/
structure Schema.Appendable (left right : Schema) : Prop where
  perm : left.Perm right
  nodup : left.names.Nodup
  referred : left.ReferredOnce

/-- What names refer to does not depend on the order of the columns. -/
theorem Schema.ReferredOnce.of_perm {left right : Schema} (h : left.ReferredOnce)
    (hperm : left.Perm right) : right.ReferredOnce := by
  have hnames : left.names.Perm right.names := hperm.map Column.name
  obtain ⟨referred, hreferred, hreferredPerm⟩ := h
  obtain ⟨others, hothers, hothersPerm⟩ := exists_referredAll?_perm hnames hnames hreferred
  exact ⟨others, hothers, hnames.symm.trans (hreferredPerm.trans hothersPerm)⟩

/-- Columns that are lined up have the names of the left side. -/
theorem Schema.Alignable.names_select {left right : Schema} (h : left.Alignable right) :
    (right.select left.names).names = left.names :=
  Schema.names_select (mem_of_sameColumns h.same)

/-- The right side can be lined up by selecting its columns by these names. -/
theorem Schema.Alignable.aligned_select (h : first.schema.Alignable second.schema) :
    Aligned first second (second.select first.schema.names) :=
  .intro h.same h.referred (h.names_select.symm ▸ h.nodup)

/-- An operand that is aligned to the columns of the other one has these columns, and its rows are
appended as they are without aligning it. -/
theorem Aligned.appendable (h : Aligned first second aligned)
    (hperm : first.schema.Perm aligned.schema) :
    first.schema.Appendable second.schema ∧ first.append aligned = first.append second := by
  obtain ⟨hsame, hreferred, hnodup⟩ := h
  obtain ⟨hschema, hnames⟩ := Schema.perm_of_select hsame hreferred hnodup hperm
  have hmem := Schema.mem_names_of_referredAll? hreferred (mem_of_sameColumns hsame)
  rw [Schema.names_select hmem] at hnodup
  obtain ⟨others, hothers, hothersPerm⟩ :=
    Schema.exists_referredAll?_perm (hschema.map Column.name).symm (.refl _) hreferred
  refine ⟨⟨hschema, hnames.nodup_iff.2 hnodup, others, hothers, hnames.trans hothersPerm⟩, ?_⟩
  exact Frame.append_select (fun _ => hnames.mem_iff.1) hmem

/-- Operands whose rows can be put together can be aligned. -/
theorem Schema.Appendable.exists_aligned (h : first.schema.Appendable second.schema) :
    ∃ aligned, Aligned first second aligned ∧ first.schema.Perm aligned.schema := by
  have hnames : first.schema.names.Perm second.schema.names := h.perm.map Column.name
  have hnodup : second.schema.names.Nodup := hnames.nodup_iff.1 h.nodup
  obtain ⟨referred, hreferred, hreferredPerm⟩ := h.referred
  obtain ⟨others, hothers, hothersPerm⟩ :=
    Schema.exists_referredAll?_perm hnames (.refl _) hreferred
  have hback := hothersPerm.symm.trans (hreferredPerm.symm.trans hnames)
  have haligned := (Schema.select_perm hnodup hback).symm
  refine ⟨_, .intro (sameColumns_of_perm hnames) hothers ?_, h.perm.trans haligned⟩
  exact (haligned.map Column.name).nodup_iff.1 hnodup

/-- Names that can be matched are no wildcards, so that each refers to the column of that name. -/
theorem Aligned.alignable_of_checkMatch (h : Aligned first second aligned)
    (hmatch : Plan.checkMatch first.schema.names first.schema aligned.schema = .ok ()) :
    first.schema.Alignable second.schema ∧ second.select first.schema.names = aligned := by
  obtain ⟨hsame, hreferred, hnodup⟩ := h
  have hself : second.schema.referredAll? first.schema.names = some first.schema.names :=
    Schema.referredAll?_eq (Plan.isWildcard_of_checkMatch hmatch)
  cases hreferred.symm.trans hself
  rw [Schema.names_select (mem_of_sameColumns hsame)] at hnodup
  exact ⟨⟨hsame, hself, hnodup⟩, rfl⟩

/-! What set operators make of two frames is put together from the left one and the right one with
its columns in the order of the left one, if the columns allow it. -/

/-- A union has the rows of both operands without repetitions. -/
theorem setResult_union_iff : SetResult first second .union frame ↔
    first.schema.Appendable second.schema ∧ (first.append second).distinct = frame := by
  constructor
  · intro h
    cases h with
    | union haligned hperm =>
        obtain ⟨happendable, hrows⟩ := haligned.appendable hperm
        exact ⟨happendable, congrArg Frame.distinct hrows.symm⟩
  · rintro ⟨happendable, rfl⟩
    obtain ⟨aligned, haligned, hperm⟩ := happendable.exists_aligned
    obtain ⟨-, hrows⟩ := haligned.appendable hperm
    exact hrows ▸ .union haligned hperm

/-- An intersection keeps the rows that have an equal one on the other side, once each. -/
theorem setResult_intersect_iff : SetResult first second .intersect frame ↔
    first.schema.Alignable second.schema ∧
      Plan.checkMatch first.schema.names first.schema
        (second.schema.select first.schema.names) = .ok () ∧
      (first.semiJoin first.schema.names (second.select first.schema.names)).distinct = frame := by
  constructor
  · intro h
    cases h with
    | intersect haligned hmatch =>
        obtain ⟨halignable, rfl⟩ := haligned.alignable_of_checkMatch hmatch
        exact ⟨halignable, hmatch, rfl⟩
  · rintro ⟨halignable, hmatch, rfl⟩
    exact .intersect halignable.aligned_select hmatch

/-- A difference keeps those that have none. -/
theorem setResult_difference_iff : SetResult first second .difference frame ↔
    first.schema.Alignable second.schema ∧
      Plan.checkMatch first.schema.names first.schema
        (second.schema.select first.schema.names) = .ok () ∧
      (first.antiJoin first.schema.names (second.select first.schema.names)).distinct = frame := by
  constructor
  · intro h
    cases h with
    | difference haligned hmatch =>
        obtain ⟨halignable, rfl⟩ := haligned.alignable_of_checkMatch hmatch
        exact ⟨halignable, hmatch, rfl⟩
  · rintro ⟨halignable, hmatch, rfl⟩
    exact .difference halignable.aligned_select hmatch

/-- A row of a union is one of either side. -/
theorem SetResult.mem_keys_union (h : SetResult first second .union frame) :
    key ∈ frame.keys ↔ key ∈ first.keys ∨ key ∈ (second.select first.schema.names).keys := by
  obtain ⟨-, rfl⟩ := setResult_union_iff.1 h
  rw [Frame.mem_keys_distinct, Frame.mem_keys_append]

/-- A row of an intersection is one of both sides, with no cell missing. -/
theorem SetResult.mem_keys_intersect (hfirst : first.Rectangular)
    (h : SetResult first second .intersect frame) :
    key ∈ frame.keys ↔
      key ∈ first.keys ∧ .missing ∉ key ∧ key ∈ (second.select first.schema.names).keys := by
  obtain ⟨halignable, -, rfl⟩ := setResult_intersect_iff.1 h
  have hsecond := halignable.aligned_select.rectangular
  rw [Frame.mem_keys_distinct, Frame.semiJoin]
  exact Frame.mem_keys_filter
    (P := fun key => .missing ∉ key ∧ key ∈ (second.select first.schema.names).keys)
    fun row hrow => hfirst.hasMatch_iff_key hsecond halignable.names_select hrow

/-- A row of a difference is one of the left side only, or one with a missing cell. -/
theorem SetResult.mem_keys_difference (hfirst : first.Rectangular)
    (h : SetResult first second .difference frame) :
    key ∈ frame.keys ↔
      key ∈ first.keys ∧ (.missing ∈ key ∨ key ∉ (second.select first.schema.names).keys) := by
  obtain ⟨halignable, -, rfl⟩ := setResult_difference_iff.1 h
  have hsecond := halignable.aligned_select.rectangular
  rw [Frame.mem_keys_distinct, Frame.antiJoin]
  refine Frame.mem_keys_filter
    (P := fun key => .missing ∈ key ∨ key ∉ (second.select first.schema.names).keys)
    fun row hrow => ?_
  rw [Bool.not_eq_true', ← Bool.not_eq_true,
    hfirst.hasMatch_iff_key hsecond halignable.names_select hrow]
  tauto

/-! ## Operands over the same columns -/

/-- No column is a wildcard, so that every name refers to the column of that name. -/
def Schema.ByName (schema : Schema) : Prop :=
  ∀ name ∈ schema.names, Schema.isWildcard name = false

/-- Decided name by name. -/
instance (schema : Schema) : Decidable schema.ByName :=
  inferInstanceAs (Decidable (∀ name ∈ schema.names, Schema.isWildcard name = false))

/-- An operand with the same columns in another order can be aligned, and then has them in the same
order. -/
theorem Frame.Rectangular.aligned_of_perm (hfirst : first.Rectangular)
    (hperm : first.schema.Perm second.schema) (hnames : first.schema.ByName) :
    Aligned first second (second.select first.schema.names) ∧
      first.schema = (second.select first.schema.names).schema := by
  have hnamesPerm : first.schema.names.Perm second.schema.names := hperm.map Column.name
  have hschema : second.schema.select first.schema.names = first.schema :=
    Schema.select_names (hnamesPerm.nodup_iff.1 hfirst.names_nodup) fun _ => hperm.mem_iff.1
  refine ⟨⟨sameColumns_of_perm hnamesPerm, Schema.referredAll?_eq hnames, ?_⟩, hschema.symm⟩
  rw [hschema]
  exact hfirst.names_nodup

/-- Columns can be matched with themselves unless one is a wildcard. -/
theorem Plan.checkMatch_self (hne : schema ≠ []) (hnames : schema.ByName) :
    checkMatch schema.names schema schema = .ok () := by
  refine checkMatch_eq_ok_iff.2 ⟨by simpa [Schema.names] using hne, hnames, fun name hname => ?_⟩
  obtain ⟨column, hcolumn, -, -⟩ := Schema.exists_column?_of_mem hname
  exact ⟨column, column, hcolumn, hcolumn, by simp [Dtype.matchable]⟩

/-- A set operator has a result for operands over the same columns unless one is a wildcard. -/
theorem Frame.Rectangular.exists_setResult (hfirst : first.Rectangular) (hne : first.schema ≠ [])
    (hperm : first.schema.Perm second.schema) (hnames : first.schema.ByName)
    (hop : op.category = .set) : ∃ result, SetResult first second op result := by
  obtain ⟨haligned, hschema⟩ := hfirst.aligned_of_perm hperm hnames
  have hmatch := Plan.checkMatch_self hne hnames
  cases op with
  | union => exact ⟨_, .union haligned (.of_eq hschema)⟩
  | intersect => exact ⟨_, .intersect haligned (hschema ▸ hmatch)⟩
  | difference => exact ⟨_, .difference haligned (hschema ▸ hmatch)⟩
  | _ => cases hop

/-- Intersection and difference have none if one is. -/
theorem SetResult.byName (hop : op ≠ .union) (h : SetResult first second op frame) :
    first.schema.ByName := by
  cases h with
  | union haligned hperm => exact absurd rfl hop
  | intersect haligned hmatch => exact Plan.isWildcard_of_checkMatch hmatch
  | difference haligned hmatch => exact Plan.isWildcard_of_checkMatch hmatch

/-! ## Evaluating set operators -/

/-- The rows of set operators on operands over the same columns, where the right operand is taken
with its columns in the order of the left one. Union has the rows of either. Intersection has those
rows of the left one that are among the rows of the right one and have no missing cell, difference
all others. So of its own rows an operand is left with those with a missing cell when it is taken
from itself, and it is not, as its union with itself is, its intersection with itself if it has
any. -/
theorem evaluate_setOp_contains (source : Text) (hcatalog : catalog.Rectangular)
    (hlhs : evaluate catalog lhs = .ok first) (hrhs : evaluate catalog rhs = .ok second)
    (hne : first.schema ≠ []) (hperm : first.schema.Perm second.schema) :
    let evaluated (op : Operator) (rhs : Expr) (frame : Frame) : Prop :=
      evaluate catalog (.setOp op lhs rhs source) = .ok frame
    let aligned := second.select first.schema.names
    (first.schema.ByName → ∀ op, op.category = .set → ∃ frame, evaluated op rhs frame) ∧
      (∀ op frame, op ≠ .union → evaluated op rhs frame → first.schema.ByName) ∧
      (∀ frame row, evaluated .union rhs frame →
        (frame.Contains row ↔ first.Contains row ∨ aligned.Contains row)) ∧
      (∀ frame row, evaluated .intersect rhs frame →
        (frame.Contains row ↔ first.Contains row ∧ .missing ∉ row ∧ aligned.Contains row)) ∧
      (∀ frame row, evaluated .difference rhs frame →
        (frame.Contains row ↔ first.Contains row ∧ (.missing ∈ row ∨ ¬ aligned.Contains row))) ∧
      (∀ frame row, evaluated .difference lhs frame →
        (frame.Contains row ↔ first.Contains row ∧ .missing ∈ row)) ∧
      ∀ frame whole row, evaluated .intersect lhs frame → evaluated .union lhs whole →
        (frame.Contains row ↔ whole.Contains row ∧ .missing ∉ row) := by
  intro evaluated aligned
  have hfirst := evaluate_rectangular hcatalog hlhs
  have hresult {op frame} (h : evaluated op rhs frame) : SetResult first second op frame :=
    (evaluate_setOp_iff_result hlhs hrhs).1 h
  have hself {op frame} (h : evaluated op lhs frame) : SetResult first first op frame :=
    (evaluate_setOp_iff_result hlhs hlhs).1 h
  simp only [Frame.contains_iff, ← Row.missing_mem_key]
  refine ⟨fun hnames op hop => ?_, ?_, ?_, ?_, ?_, ?_, ?_⟩
  · obtain ⟨frame, h⟩ := hfirst.exists_setResult hne hperm hnames hop
    exact ⟨frame, (evaluate_setOp_iff_result hlhs hrhs).2 h⟩
  · exact fun op frame hop h => (hresult h).byName hop
  · exact fun frame row h => (hresult h).mem_keys_union
  · exact fun frame row h => (hresult h).mem_keys_intersect hfirst
  · exact fun frame row h => (hresult h).mem_keys_difference hfirst
  · intro frame row h
    rw [(hself h).mem_keys_difference hfirst, hfirst.select_names hne]
    tauto
  · intro frame whole row h hwhole
    rw [(hself h).mem_keys_intersect hfirst, (hself hwhole).mem_keys_union,
      hfirst.select_names hne]
    tauto

/-- Two relations with the same columns in different orders that share a row with a missing cell and
one without. -/
theorem evaluate_setOp_contains_permuted :
    let table : Frame := ⟨[⟨['A'], .int64⟩, ⟨['B'], .text⟩],
      [[.int 1, .text ['x']], [.missing, .text ['y']], [.int 1, .text ['x']]]⟩
    let other : Frame := ⟨[⟨['B'], .text⟩, ⟨['A'], .int64⟩],
      [[.text ['z'], .int 3], [.text ['y'], .missing], [.text ['x'], .int 1]]⟩
    let catalog : Catalog := ⟨[(['R'], table), (['S'], other)]⟩
    let both : Expr := .setOp .intersect (.named ['R']) (.named ['S']) []
    let rest : Expr := .setOp .difference (.named ['R']) (.named ['S']) []
    catalog.Rectangular ∧ evaluate catalog (.named ['R']) = .ok table ∧
      evaluate catalog (.named ['S']) = .ok other ∧ table.schema ≠ [] ∧
      table.schema.Perm other.schema ∧
      (∃ f, evaluate catalog both = .ok f ∧ f.Contains [.int 1, .text ['x']] ∧
        ¬ f.Contains [.missing, .text ['y']]) ∧
      ∃ f, evaluate catalog rest = .ok f ∧ ¬ f.Contains [.int 1, .text ['x']] ∧
        f.Contains [.missing, .text ['y']] := by
  intro table other catalog both rest
  have hcatalog : catalog.Rectangular := fun _ _ => Catalog.forall_of_get?
    (List.forall_mem_cons.2 ⟨⟨by decide, by decide⟩,
      List.forall_mem_singleton.2 ⟨by decide, by decide⟩⟩)
  have hlhs : evaluate catalog (.named ['R']) = .ok table := rfl
  have hrhs : evaluate catalog (.named ['S']) = .ok other := rfl
  have hperm : table.schema.Perm other.schema := by decide
  obtain ⟨hexists, -, -, hboth, hrest, -⟩ :=
    evaluate_setOp_contains [] hcatalog hlhs hrhs (by decide) hperm
  have hnames : table.schema.ByName := by decide
  obtain ⟨f, hf⟩ := hexists hnames .intersect rfl
  obtain ⟨g, hg⟩ := hexists hnames .difference rfl
  refine ⟨hcatalog, hlhs, hrhs, by decide, hperm, ⟨f, hf, ?_, ?_⟩, ⟨g, hg, ?_, ?_⟩⟩
  · exact (hboth f _ hf).2 (by decide)
  · exact mt (hboth f _ hf).1 (by decide)
  · exact mt (hrest g _ hg).1 (by decide)
  · exact (hrest g _ hg).2 (by decide)

/-- Intersection and difference do not tell rows apart as union does: of the rows of the left
operand, intersection would have those that are among the rows of the right one, and difference the
others. -/
theorem not_evaluate_setOp_contains :
    ¬ ∀ (catalog : Catalog) (lhs rhs : Expr) (first second : Frame),
    catalog.Rectangular → evaluate catalog lhs = .ok first → evaluate catalog rhs = .ok second →
    first.schema ≠ [] → first.schema.Perm second.schema →
    let aligned := second.select first.schema.names
    (∀ frame row, evaluate catalog (.setOp .intersect lhs rhs []) = .ok frame →
      first.Contains row → (frame.Contains row ↔ aligned.Contains row)) ∧
    ∀ frame row, evaluate catalog (.setOp .difference lhs rhs []) = .ok frame →
      first.Contains row → (frame.Contains row ↔ ¬ aligned.Contains row) := by
  intro h
  let table : Frame := ⟨[⟨['A'], .int64⟩], [[.missing], [.int 1]]⟩
  let catalog : Catalog := ⟨[(['R'], table)]⟩
  have hcatalog : catalog.Rectangular := fun _ _ => Catalog.forall_of_get?
    (List.forall_mem_singleton.2 ⟨by decide, by decide⟩)
  have hdifference : evaluate catalog (.setOp .difference (.named ['R']) (.named ['R']) []) =
      .ok ⟨table.schema, [[.missing]]⟩ := rfl
  obtain ⟨-, hrest⟩ := h catalog (.named ['R']) (.named ['R']) table table hcatalog rfl rfl
    (by decide) (by decide)
  exact absurd (hrest _ [.missing] hdifference (by decide)) (by decide)

end RelQuery
