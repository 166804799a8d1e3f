import RelQuery.Text
import Mathlib.Data.List.Sort

/-!
# The order of texts

Texts are ordered like lists of code points (`compare_eq_compareLex`), and so in a line: two texts
that are not before one another are the same.
-/

namespace RelQuery.Text

/-- Different characters have different code points. -/
instance : Std.LawfulEqCmp (compareOn Char.toNat) where
  eq_of_compare h := Char.toNat_inj.1 (Nat.compare_eq_eq.1 h)

/-- The order of texts is that of the lists of their code points. -/
theorem compare_eq_compareLex (left right : Text) :
    Text.compare left right = List.compareLex (compareOn Char.toNat) left right := by
  induction left generalizing right with
  | nil => cases right <;> rfl
  | cons a left ih =>
      cases right with
      | nil => rfl
      | cons b right =>
          rw [Text.compare, List.compareLex_cons_cons, ih, compareOn]
          obtain hlt | heq | hgt := Nat.lt_trichotomy a.toNat b.toNat
          · rw [if_pos hlt, Nat.compare_eq_lt.2 hlt]
            rfl
          · rw [if_neg heq.not_lt, if_neg heq.not_gt, Nat.compare_eq_eq.2 heq]
            rfl
          · rw [if_neg hgt.not_gt, if_pos hgt, Nat.compare_eq_gt.2 hgt]
            rfl

/-- Texts are ordered as their codes are. -/
instance : Std.TransCmp Text.compare where
  eq_swap {left right} := by
    rw [compare_eq_compareLex, compare_eq_compareLex]
    exact Std.OrientedCmp.eq_swap
  isLE_trans {left middle right} h h' := by
    rw [compare_eq_compareLex] at h h' ⊢
    exact Std.TransCmp.isLE_trans h h'

/-- Only the same texts come at the same place. -/
instance : Std.LawfulEqCmp Text.compare where
  compare_self {text} := by
    rw [compare_eq_compareLex]
    exact Std.ReflCmp.compare_self
  eq_of_compare {left right} h := by
    rw [compare_eq_compareLex] at h
    exact Std.LawfulEqCmp.eq_of_compare h

end RelQuery.Text
