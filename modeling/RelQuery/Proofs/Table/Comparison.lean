import RelQuery.Proofs.Table.Outcome
import RelQuery.Proofs.Text.Order

/-!
# Comparing two operands

Two values are ordered one way or the other and the other way round from the other side
(`Cell.compare?_swap`), and the six comparisons are read off this order. So what a comparison keeps
is kept by its converse with the sides exchanged (`Predicate.keeps_converse`), and of two operands
with comparable types on a row where neither is missing exactly one of `lt`, `eq` and `gt` is true
(`Predicate.existsUnique_keeps`).
-/

namespace RelQuery

/-- A column of the type may have the cell: there is no value in it or one of the type. -/
def Dtype.Admits (dtype : Dtype) (cell : Cell) : Prop :=
  cell = .missing ∨ dtype.Holds cell

/-- Every row has a cell in each column, missing or with a value of the column's type. -/
def Frame.Conforming (frame : Frame) : Prop :=
  ∀ row ∈ frame.rows,
    List.Forall₂ (fun column cell => column.dtype.Admits cell) frame.schema row

variable {schema : Schema} {row : Row} {x y : Cell} {s t : Dtype} {order : Ordering}

/-! ## The order of values -/

/-- Cells in exchanged places compare the other way. -/
theorem Cell.compare?_swap (a b : Cell) : b.compare? a = (a.compare? b).map Ordering.swap := by
  have hint (m n : Int) : compare n m = (compare m n).swap := Std.OrientedCmp.eq_swap
  have htext (left right : Text) : Text.compare right left = (Text.compare left right).swap :=
    Std.OrientedCmp.eq_swap
  cases a <;> cases b <;> simp [compare?, compareMixed, ← hint, ← htext]

/-- A missing cell cannot be compared. -/
theorem Cell.compare?_of_missing (h : x = .missing ∨ y = .missing) : x.compare? y = none := by
  obtain rfl | rfl := h
  · cases y <;> rfl
  · cases x <;> rfl

/-- Whether two types can be compared does not depend on their order. -/
theorem Dtype.comparable_comm (s t : Dtype) : s.comparable t = t.comparable s := by
  cases s <;> cases t <;> rfl

/-- Of comparable types two cells that are not missing are ordered. -/
theorem Dtype.Admits.exists_compare? (hx : s.Admits x) (hy : t.Admits y)
    (h : s.comparable t) (hx' : x ≠ .missing) (hy' : y ≠ .missing) :
    ∃ order, x.compare? y = some order :=
  Option.isSome_iff_exists.1 ((hx.resolve_left hx').isSome_compare? (hy.resolve_left hy') h)

namespace Condition

variable {a b : Operand} {op first second : Comparison}

/-- An operand has a cell that a column of its type may have. -/
theorem Operand.admits_cell
    (hrow : List.Forall₂ (fun column cell => column.dtype.Admits cell) schema row) :
    (a.dtype schema).Admits (a.cell schema row) :=
  rel_cell hrow (fun value => .inr value.holds_cell) fun _ => .inr trivial

/-! ## The six comparisons -/

/-- The comparison that says the same with the sides exchanged. -/
def Comparison.converse : Comparison → Comparison
  | eq => eq
  | ne => ne
  | lt => gt
  | le => ge
  | gt => lt
  | ge => le

/-- The converse comparison holds of exchanged places. -/
theorem Comparison.holds_converse (op : Comparison) (order : Ordering) :
    op.converse.holds order.swap = op.holds order := by
  cases op <;> cases order <;> rfl

/-- The comparison that is true of values in this order only. -/
def Comparison.ofOrdering : Ordering → Comparison
  | .lt => lt
  | .eq => eq
  | .gt => gt

/-- Of the three basic comparisons the one that holds is that of the order. -/
theorem Comparison.holds_iff (h : op ∈ [lt, eq, gt]) (order : Ordering) :
    op.holds order ↔ op = ofOrdering order := by
  revert h
  cases op <;> cases order <;> decide

/-- So just one of them holds. -/
theorem Comparison.existsUnique_holds (order : Ordering) :
    ∃! op, op ∈ [lt, eq, gt] ∧ op.holds order := by
  have hmem : ofOrdering order ∈ [lt, eq, gt] := by
    cases order <;> decide
  exact ⟨ofOrdering order, ⟨hmem, (holds_iff hmem order).2 rfl⟩,
    fun op hop => (holds_iff hop.1 order).1 hop.2⟩

namespace Predicate

/-- A comparison keeps a row if it holds of how its cells compare. -/
theorem keeps_of_compare? (h : (a.cell schema row).compare? (b.cell schema row) = some order) :
    (compare op a b).keeps schema row = op.holds order := by
  simp [keeps, outcome, h]

/-- A comparison with a missing cell is true on no row. -/
theorem keeps_of_missing (h : a.cell schema row = .missing ∨ b.cell schema row = .missing) :
    (compare op a b).keeps schema row = false := by
  simp [keeps, outcome, Cell.compare?_of_missing h]

/-- Whether operands can be compared depends neither on the sign nor on their places. -/
theorem comparable_comm (first second : Comparison) (schema : Schema) :
    (compare first b a).comparable schema = (compare second a b).comparable schema :=
  Dtype.comparable_comm _ _

/-- The converse is true on the same rows when the sides are exchanged. -/
theorem keeps_converse :
    (compare op.converse b a).keeps schema = (compare op a b).keeps schema := by
  funext row
  have hswap := Cell.compare?_swap (a.cell schema row) (b.cell schema row)
  cases h : (a.cell schema row).compare? (b.cell schema row) with
  | none => simp [keeps, outcome, hswap, h]
  | some order =>
      rw [h, Option.map_some] at hswap
      rw [keeps_of_compare? h, keeps_of_compare? hswap, Comparison.holds_converse]

/-- What a comparison says in terms of two others it says on every row. -/
theorem keeps_eq_or (h : ∀ order, op.holds order = (first.holds order || second.holds order))
    (row : Row) : (compare op a b).keeps schema row =
      ((compare first a b).keeps schema row || (compare second a b).keeps schema row) := by
  cases hcompare : (a.cell schema row).compare? (b.cell schema row) with
  | none => simp [keeps, outcome, hcompare]
  | some order => simp only [keeps_of_compare? hcompare, h]

/-- Where neither side is missing, exactly one of these comparisons is true. -/
theorem existsUnique_keeps
    (hrow : List.Forall₂ (fun column cell => column.dtype.Admits cell) schema row)
    (h : (compare op a b).comparable schema) (ha : a.cell schema row ≠ .missing)
    (hb : b.cell schema row ≠ .missing) :
    ∃! op, op ∈ [.lt, .eq, .gt] ∧ (compare op a b).keeps schema row := by
  obtain ⟨order, horder⟩ :=
    (Operand.admits_cell hrow).exists_compare? (Operand.admits_cell hrow) h ha hb
  simpa only [keeps_of_compare? horder] using Comparison.existsUnique_holds order

end Predicate

end Condition

end RelQuery
