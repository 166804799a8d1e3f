import RelQuery.Proofs.Evaluate.Results
import RelQuery.Proofs.Table.Catalog
import RelQuery.Proofs.Table.Repetitions

/-!
# Evaluation repeats no row

Relations are sets. Projections and set operators leave out repetitions; selections, products and
joins do not, but they make none either: where no relation of the catalog repeats a row, no result
does (`evaluate_rowsDiffer`).
-/

namespace RelQuery

variable {first second frame : Frame} {op : Operator} {condition : Text}
variable {catalog : Catalog} {e : Expr}

/-- Unary operators let no row repeat another. -/
theorem UnaryResult.rowsDiffer (hfirst : first.RowsDiffer)
    (h : UnaryResult condition first op frame) : frame.RowsDiffer := by
  cases h with
  | select h =>
      cases h
      exact hfirst.filter _
  | project hread hmem hreferred hnodup => exact Frame.rowsDiffer_distinct _

/-- A set operator repeats no row, whatever its operands do. -/
theorem SetResult.rowsDiffer (h : SetResult first second op frame) : frame.RowsDiffer := by
  cases h with
  | union haligned hperm => exact Frame.rowsDiffer_distinct _
  | intersect haligned hmatch => exact Frame.rowsDiffer_distinct _
  | difference haligned hmatch => exact Frame.rowsDiffer_distinct _

/-- Neither do joins of frames in which none does. -/
theorem JoinResult.rowsDiffer (hfirst : first.RowsDiffer) (hsecond : second.RowsDiffer)
    (hleft : first.Rectangular) (hright : second.Rectangular)
    (h : JoinResult first second op frame) : frame.RowsDiffer := by
  cases h with
  | naturalJoin hcommon hmatch hnodup => exact hfirst.innerJoin hsecond hleft hright
  | disjoint hcommon hnodup => exact hfirst.product hsecond hleft
  | cartesian hnodup => exact hfirst.product hsecond hleft
  | thetaJoin hnodup => exact hfirst.product hsecond hleft

/-- If no relation of the catalog has two rows that are repetitions of each other, then no result
has. -/
theorem evaluate_rowsDiffer
    (hcatalog : ∀ name f, catalog.get? name = some f → f.Rectangular ∧ f.RowsDiffer)
    (h : evaluate catalog e = .ok frame) : frame.RowsDiffer := by
  have hboth : frame.Rectangular ∧ frame.RowsDiffer := by
    refine evaluate_invariant hcatalog ?_ ?_ ?_ h
    · rintro condition op f result ⟨hf, hdiffer⟩ hresult
      exact ⟨hresult.rectangular hf, hresult.rowsDiffer hdiffer⟩
    · rintro op f g result ⟨hf, -⟩ - hresult
      exact ⟨hresult.rectangular hf, hresult.rowsDiffer⟩
    · rintro op f g result ⟨hf, hfdiffer⟩ ⟨hg, hgdiffer⟩ hresult
      exact ⟨hresult.rectangular hf hg, hresult.rowsDiffer hfdiffer hgdiffer hf hg⟩
  exact hboth.2

/-- A natural join over columns with missing values, NaNs and zeros, and a projection of it beside
one of its operands. -/
theorem evaluate_rowsDiffer_missing :
    let zero : Cell := .float ⟨0⟩
    let negativeZero : Cell := .float ⟨0x8000000000000000⟩
    let nan : Cell := .float ⟨0x7FF8000000000000⟩
    let negativeNan : Cell := .float ⟨0xFFF8000000000000⟩
    let catalog : Catalog := ⟨[
      (['R'], ⟨[⟨['A'], .int64⟩, ⟨['B'], .float64⟩],
        [[.int 1, nan], [.missing, zero], [.missing, nan], [.missing, .missing]]⟩),
      (['S'], ⟨[⟨['B'], .float64⟩, ⟨['C'], .text⟩],
        [[negativeZero, .text ['x']], [negativeNan, .missing], [.missing, .missing]]⟩)]⟩
    let join : Expr := .join .naturalJoin (.named ['R']) (.named ['S']) []
    let product : Expr :=
      .join .cartesian (.unary .project "A, B".toList join []) (.named ['S']) []
    let joined : Frame := ⟨[⟨['A'], .int64⟩, ⟨['B'], .float64⟩, ⟨['C'], .text⟩],
      [[.int 1, nan, .missing], [.missing, zero, .text ['x']], [.missing, nan, .missing]]⟩
    (∀ name f, catalog.get? name = some f → f.Rectangular ∧ f.RowsDiffer) ∧
      evaluate catalog join = .ok joined ∧ joined.RowsDiffer ∧
      ∃ frame, evaluate catalog product = .ok frame ∧ frame.height = 9 ∧ frame.RowsDiffer := by
  intro zero negativeZero nan negativeNan catalog join product joined
  have hcatalog : ∀ name f, catalog.get? name = some f → f.Rectangular ∧ f.RowsDiffer := by
    intro name f
    refine Catalog.forall_of_get? (P := fun f => f.Rectangular ∧ f.RowsDiffer)
      (List.forall_mem_cons.2 ⟨?_, List.forall_mem_singleton.2 ?_⟩)
    · exact ⟨⟨by decide, by decide⟩, Frame.rowsDiffer_iff.2 (by decide)⟩
    · exact ⟨⟨by decide, by decide⟩, Frame.rowsDiffer_iff.2 (by decide)⟩
  have hjoin : evaluate catalog join = .ok joined := by rfl
  obtain ⟨frame, hproduct, hheight⟩ :
      ∃ frame, evaluate catalog product = .ok frame ∧ frame.height = 9 := ⟨_, rfl, rfl⟩
  exact ⟨hcatalog, hjoin, evaluate_rowsDiffer hcatalog hjoin, frame, hproduct, hheight,
    evaluate_rowsDiffer hcatalog hproduct⟩

end RelQuery
