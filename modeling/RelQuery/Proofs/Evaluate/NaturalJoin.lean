import RelQuery.Proofs.Evaluate.Results
import RelQuery.Proofs.Table.Catalog
import RelQuery.Proofs.Table.NaturalJoin

/-!
# Evaluating natural joins

Whether the operands of a natural join have columns in common decides on the plan, which matches
rows in these or else pairs all rows. The result is the same natural join in both cases
(`JoinResult.naturalJoin_iff`). Of three operands it does not matter which two are joined first: the
joins can be carried out or fail together, and the result is the same
(`evaluate_naturalJoin_assoc`).
-/

namespace RelQuery

variable {left right : Schema} {f g frame : Frame} {catalog : Catalog} {lhs rhs : Expr}
variable {source : Text}

/-- The columns in common can be matched if all columns of the same name can. -/
theorem Schema.checkMatch_common_iff (hcommon : left.common right ≠ []) :
    Plan.checkMatch (left.common right) left right = .ok () ↔ left.Joinable right := by
  rw [Plan.checkMatch_eq_ok_iff]
  constructor
  · rintro ⟨-, hwildcard, htypes⟩ name a ha b hb
    have hname : name ∈ left.common right :=
      mem_common_iff.2 ⟨mem_names_of_column? ha, mem_names_of_column? hb⟩
    obtain ⟨a', b', ha', hb', hmatchable⟩ := htypes name hname
    cases ha'.symm.trans ha
    cases hb'.symm.trans hb
    exact ⟨hwildcard name hname, hmatchable⟩
  · intro h
    have hcolumns : ∀ name ∈ left.common right, ∃ a b, left.column? name = some a ∧
        right.column? name = some b ∧ isWildcard name = false ∧ a.dtype.matchable b.dtype := by
      intro name hname
      obtain ⟨hleft, hright⟩ := mem_common_iff.1 hname
      obtain ⟨a, ha, -⟩ := exists_column?_of_mem hleft
      obtain ⟨b, hb, -⟩ := exists_column?_of_mem hright
      exact ⟨a, b, ha, hb, h name a ha b hb⟩
    refine ⟨hcommon, fun name hname => ?_, fun name hname => ?_⟩
    · obtain ⟨-, -, -, -, hwildcard, -⟩ := hcolumns name hname
      exact hwildcard
    · obtain ⟨a, b, ha, hb, -, hmatchable⟩ := hcolumns name hname
      exact ⟨a, b, ha, hb, hmatchable⟩

/-- Without columns in common there is nothing to match. -/
theorem Schema.joinable_of_common_eq_nil (hcommon : left.common right = []) :
    left.Joinable right := by
  intro name a ha b hb
  have hname : name ∈ left.common right :=
    mem_common_iff.2 ⟨mem_names_of_column? ha, mem_names_of_column? hb⟩
  rw [hcommon] at hname
  cases hname

/-- A natural join has a result if the columns of the same names can be matched. -/
theorem JoinResult.naturalJoin_iff (hf : f.Rectangular) (hg : g.Rectangular) :
    JoinResult f g .naturalJoin frame ↔ f.schema.Joinable g.schema ∧ f.naturalJoin g = frame := by
  constructor
  · intro h
    cases h with
    | naturalJoin hcommon hmatch hnodup =>
        exact ⟨(Schema.checkMatch_common_iff hcommon).1 hmatch, rfl⟩
    | disjoint hcommon hnodup =>
        exact ⟨Schema.joinable_of_common_eq_nil hcommon, hg.naturalJoin_eq_product hcommon⟩
  · rintro ⟨hjoinable, rfl⟩
    have hnodup := (hf.naturalJoin hg).names_nodup
    by_cases hcommon : f.schema.common g.schema = []
    · rw [hg.naturalJoin_eq_product hcommon] at hnodup ⊢
      exact .disjoint hcommon hnodup
    · exact .naturalJoin hcommon ((Schema.checkMatch_common_iff hcommon).2 hjoinable) hnodup

/-- A natural join evaluates if its operands do and can be joined, to their natural join. -/
theorem evaluate_naturalJoin_eq_ok_iff (hcatalog : catalog.Rectangular) :
    evaluate catalog (.join .naturalJoin lhs rhs source) = .ok frame ↔
      ∃ f g, evaluate catalog lhs = .ok f ∧ evaluate catalog rhs = .ok g ∧
        f.schema.Joinable g.schema ∧ f.naturalJoin g = frame := by
  rw [evaluate_join_eq_ok_iff]
  refine exists₂_congr fun f g => and_congr_right fun hf => and_congr_right fun hg => ?_
  exact JoinResult.naturalJoin_iff (evaluate_rectangular hcatalog hf)
    (evaluate_rectangular hcatalog hg)

/-- Natural joins are associative: joined in either order, three operands have a result together,
and it is the same frame, with the same columns and the same rows as often and even in the same
order. -/
theorem evaluate_naturalJoin_assoc {r s t : Expr} {leftSource rightSource first second : Text}
    (hcatalog : catalog.Rectangular) :
    evaluate catalog (.join .naturalJoin (.join .naturalJoin r s leftSource) t first) = .ok frame ↔
      evaluate catalog (.join .naturalJoin r (.join .naturalJoin s t rightSource) second) =
        .ok frame := by
  simp only [evaluate_naturalJoin_eq_ok_iff hcatalog]
  constructor
  · rintro ⟨_, h, ⟨f, g, hf, hg, hfg, rfl⟩, hh, hfgh, rfl⟩
    rw [Frame.schema_naturalJoin] at hfgh
    obtain ⟨hgh, hfgh⟩ := Schema.joinable_assoc.1 ⟨hfg, hfgh⟩
    refine ⟨f, _, hf, ⟨g, h, hg, hh, hgh, rfl⟩, ?_, ?_⟩
    · rwa [Frame.schema_naturalJoin]
    · exact (Frame.naturalJoin_assoc (evaluate_rectangular hcatalog hf)
        (evaluate_rectangular hcatalog hg)).symm
  · rintro ⟨f, _, hf, ⟨g, h, hg, hh, hgh, rfl⟩, hfgh, rfl⟩
    rw [Frame.schema_naturalJoin] at hfgh
    obtain ⟨hfg, hfgh⟩ := Schema.joinable_assoc.2 ⟨hgh, hfgh⟩
    refine ⟨_, h, ⟨f, g, hf, hg, hfg, rfl⟩, hh, ?_, ?_⟩
    · rwa [Frame.schema_naturalJoin]
    · exact Frame.naturalJoin_assoc (evaluate_rectangular hcatalog hf)
        (evaluate_rectangular hcatalog hg)

/-- Three relations of which every two have a column in common, of integers of different sizes or of
numbers among which the zeros match; a row is repeated and some have no value to match. -/
theorem evaluate_naturalJoin_assoc_missing :
    let zero : Cell := .float ⟨0⟩
    let negativeZero : Cell := .float ⟨0x8000000000000000⟩
    let catalog : Catalog := ⟨[
      (['R'], ⟨[⟨['A'], .int32⟩, ⟨['B'], .text⟩],
        [[.int 1, .text ['x']], [.int 1, .text ['x']], [.missing, .text ['y']]]⟩),
      (['S'], ⟨[⟨['B'], .text⟩, ⟨['C'], .float64⟩],
        [[.text ['x'], zero], [.text ['y'], zero], [.missing, zero]]⟩),
      (['T'], ⟨[⟨['C'], .float64⟩, ⟨['A'], .int64⟩],
        [[negativeZero, .int 1], [negativeZero, .missing]]⟩)]⟩
    let join (lhs rhs : Expr) : Expr := .join .naturalJoin lhs rhs []
    let frame : Frame := ⟨[⟨['A'], .int32⟩, ⟨['B'], .text⟩, ⟨['C'], .float64⟩],
      [[.int 1, .text ['x'], zero], [.int 1, .text ['x'], zero]]⟩
    catalog.Rectangular ∧
      evaluate catalog (join (join (.named ['R']) (.named ['S'])) (.named ['T'])) = .ok frame ∧
      evaluate catalog (join (.named ['R']) (join (.named ['S']) (.named ['T']))) = .ok frame := by
  intro zero negativeZero catalog join frame
  have hcatalog : catalog.Rectangular := fun _ _ => Catalog.forall_of_get?
    (List.forall_mem_cons.2 ⟨⟨by decide, by decide⟩, List.forall_mem_cons.2
      ⟨⟨by decide, by decide⟩, List.forall_mem_singleton.2 ⟨by decide, by decide⟩⟩⟩)
  have hleft : evaluate catalog (join (join (.named ['R']) (.named ['S'])) (.named ['T'])) =
    .ok frame := rfl
  exact ⟨hcatalog, hleft, (evaluate_naturalJoin_assoc hcatalog).1 hleft⟩

end RelQuery
