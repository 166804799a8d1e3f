import RelQuery.Proofs.Condition.Grammar
import RelQuery.Proofs.Evaluate.Selection
import RelQuery.Proofs.Table.Comparison

/-!
# Selections by comparisons

The six comparisons of the same two operands are allowed or refused together, and with the sides
exchanged too, because only the types of the operands matter (`evaluate_compare`). The rows that
they select follow from one order of the two values on each row (`evaluate_comparisons`): a row is
selected by exactly one of `<`, `=` and `>`, or by none of the six if a value is missing.
-/

namespace RelQuery

open Condition (Comparison Operand Predicate)

variable {catalog : Catalog} {e : Expr} {f equal : Frame} {a b : Operand} {op first : Comparison}
variable {text source : Text}

/-- A comparison of operands that can be compared selects the rows on which it is true, however it
is written. -/
theorem evaluate_compare (he : evaluate catalog e = .ok f) (ha : a.Writable) (hb : b.Writable)
    (htext : (Predicate.compare op a b).Written .disjunction text)
    (hcomparable : (Predicate.compare first a b).comparable f.schema) :
    evaluate catalog (.unary .select text e source) =
      .ok (f.filter ((Predicate.compare op a b).keeps f.schema)) := by
  have hwritable : (Predicate.compare op a b).Writable := ⟨ha, hb⟩
  have hread := (Condition.readPredicate_written hwritable).2 text htext
  exact (evaluate_select_of_ok hread he).2 ⟨hcomparable, rfl⟩

/-- Of two operands that can be compared by `=` all six comparisons can be evaluated, and each says
the same as its converse with the sides exchanged. On a row where neither side is missing exactly
one of `<`, `=` and `>` is true, and the other three are what these say: `<=` is `<` or `=`, `>=` is
`=` or `>`, and `!=` is `<` or `>`. Where a side is missing none of the six is true. -/
theorem evaluate_comparisons (he : evaluate catalog e = .ok f) (hf : f.Conforming)
    (ha : a.Writable) (hb : b.Writable)
    (htext : (Predicate.compare .eq a b).Written .disjunction text)
    (htyped : evaluate catalog (.unary .select text e source) = .ok equal) :
    let kept (op : Comparison) : Row → Bool := (Predicate.compare op a b).keeps f.schema
    (∀ op text, (Predicate.compare op a b).Written .disjunction text →
      evaluate catalog (.unary .select text e source) = .ok (f.filter (kept op))) ∧
    (∀ op text, (Predicate.compare op.converse b a).Written .disjunction text →
      evaluate catalog (.unary .select text e source) = .ok (f.filter (kept op))) ∧
    ∀ row ∈ f.rows,
      (a.cell f.schema row ≠ .missing → b.cell f.schema row ≠ .missing →
        ∃! op, op ∈ [.lt, .eq, .gt] ∧ kept op row) ∧
      kept .le row = (kept .lt row || kept .eq row) ∧
      kept .ge row = (kept .eq row || kept .gt row) ∧
      kept .ne row = (kept .lt row || kept .gt row) ∧
      (a.cell f.schema row = .missing ∨ b.cell f.schema row = .missing →
        ∀ op, kept op row = false) := by
  intro kept
  have hwritable : (Predicate.compare .eq a b).Writable := ⟨ha, hb⟩
  have hread := (Condition.readPredicate_written hwritable).2 text htext
  have hcomparable := ((evaluate_select_of_ok hread he).1 htyped).1
  have hexchanged : (Predicate.compare .eq b a).comparable f.schema := by
    rwa [Predicate.comparable_comm .eq .eq]
  refine ⟨fun op text h => evaluate_compare he ha hb h hcomparable, fun op text h => ?_,
    fun row hrow => ⟨?_, ?_, ?_, ?_, ?_⟩⟩
  · rw [evaluate_compare he hb ha h hexchanged, Predicate.keeps_converse]
  · exact fun hleft hright => Predicate.existsUnique_keeps (hf row hrow) hcomparable hleft hright
  · exact Predicate.keeps_eq_or (by rintro ⟨⟩ <;> rfl) row
  · exact Predicate.keeps_eq_or (by rintro ⟨⟩ <;> rfl) row
  · exact Predicate.keeps_eq_or (by rintro ⟨⟩ <;> rfl) row
  · exact fun hmissing op => Predicate.keeps_of_missing hmissing

/-- A column of integers and one of truth values, with all three orders, and each value missing
once. -/
theorem evaluate_comparisons_truth :
    let schema : Schema := [⟨['A'], .int64⟩, ⟨['B'], .boolean⟩]
    let f : Frame := ⟨schema, [[.int 0, .truth true], [.int 1, .truth true], [.int 2, .truth true],
      [.missing, .truth true], [.int 0, .missing]]⟩
    let catalog : Catalog := ⟨[(['R'], f)]⟩
    let selected (condition : String) : Except EvalError Frame :=
      evaluate catalog (.unary .select condition.toList (.named ['R']) [])
    f.Conforming ∧ (selected "A = B").isOk ∧
    selected "A < B" = .ok ⟨schema, [[.int 0, .truth true]]⟩ ∧ selected "B > A" = selected "A < B" ∧
    selected "A <= B" = .ok ⟨schema, [[.int 0, .truth true], [.int 1, .truth true]]⟩ ∧
    selected "A <> B" = .ok ⟨schema, [[.int 0, .truth true], [.int 2, .truth true]]⟩ := by
  intro schema f catalog selected
  have he : evaluate catalog (.named ['R']) = .ok f := rfl
  have hf : f.Conforming := by
    simp [f, schema, Frame.Conforming, Dtype.Admits, Dtype.Holds]
  have hA : (Operand.word ['A']).Writable := by decide
  have hB : (Operand.word ['B']).Writable := by decide
  have hgap : Condition.IsGap [' '] := Condition.isGap_singleton rfl
  have hwritten (op : Comparison) (x : Text) (sign : String) (y : Text)
      (hsign : sign ∈ op.spellings) :
      (Predicate.compare op (.word x) (.word y)).Written .disjunction
        (x ++ [' '] ++ sign.toList ++ [' '] ++ y) :=
    .conjunction (.single (.compare (.word x) hgap hsign hgap (.word y)))
  have htyped : selected "A = B" = .ok ⟨schema, [[.int 1, .truth true]]⟩ := by decide +kernel
  obtain ⟨hall, hexchanged, -⟩ :=
    evaluate_comparisons he hf hA hB (hwritten .eq ['A'] "=" ['B'] (by decide)) htyped
  have hlt := hall .lt _ (hwritten .lt ['A'] "<" ['B'] (by decide))
  have hgt := hexchanged .lt _ (hwritten .gt ['B'] ">" ['A'] (by decide))
  have hle := hall .le _ (hwritten .le ['A'] "<=" ['B'] (by decide))
  have hne := hall .ne _ (hwritten .ne ['A'] "<>" ['B'] (by decide))
  exact ⟨hf, congrArg Except.isOk htyped, hlt, hgt.trans hlt.symm, hle, hne⟩

end RelQuery
