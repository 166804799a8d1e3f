import RelQuery.Proofs.Condition.Combined
import RelQuery.Proofs.Table.Predicate
import RelQuery.Table.Reference

/-!
# What predicates are made of

A predicate that is read is put together from comparisons of operands that are read, so that it has
every property that these comparisons have and the connectives keep (`forall_of_readPredicate`). In
particular its words are runs of word characters, wherever in the condition they stand. No wildcard
is such a run: a word that names a column refers to that column.
-/

namespace RelQuery.Condition

variable {P : Predicate → Prop} {mark? : Text → Option Text} {item : Text → Reading}
variable {combine : Predicate → Predicate → Predicate} {first p : Predicate} {limit depth : Nat}
variable {text rest condition : Text} {operand : Operand}

/-! ## Properties of all that is read -/

/-- Every predicate that is read has the property. -/
def Yields (P : Predicate → Prop) (item : Text → Reading) : Prop :=
  ∀ text p rest, item text = .done p rest → P p

/-- What combining keeps holds of a chain of items that it holds of. -/
theorem Yields.readMore (h : Yields P item) (hcombine : ∀ p q, P p → P q → P (combine p q))
    (hfirst : P first) : P (readMore mark? item combine limit first text).1 := by
  induction limit generalizing first text with
  | zero => exact hfirst
  | succ limit ih =>
      rw [Condition.readMore]
      split
      · exact hfirst
      · split
        · rename_i next behind hnext
          exact ih (hcombine first next hfirst (h _ _ _ hnext))
        · exact hfirst

/-- So it holds of every chain that is read. -/
theorem Yields.readChain (h : Yields P item) (hcombine : ∀ p q, P p → P q → P (combine p q)) :
    Yields P (readChain mark? item combine) := by
  intro text p rest hread
  cases hfirst : item text with
  | stopped stop =>
      rw [Condition.readChain, hfirst] at hread
      cases hread
  | done first behind =>
      simp only [Condition.readChain, hfirst, Reading.done.injEq] at hread
      exact hread.1 ▸ h.readMore hcombine (h _ _ _ hfirst)

section

variable (hand : ∀ p q, P p → P q → P (.and p q)) (hor : ∀ p q, P p → P q → P (.or p q))
include hand hor

/-- And of every disjunction. -/
theorem Yields.readDisjunction (h : Yields P item) : Yields P (readDisjunction item) :=
  (h.readChain hand).readChain hor

variable (hnot : ∀ p, P p → P (.not p))
variable (hcompare : ∀ op lhs rhs, (∃ text rest, operand? text = some (lhs, rest)) →
  (∃ text rest, operand? text = some (rhs, rest)) → P (.compare op lhs rhs))
include hnot hcompare

/-- So it holds of whatever is read, if it does of comparisons. -/
theorem yields_readNegation : Yields P (readNegation depth) := by
  induction depth with
  | zero => exact fun text p rest h => by cases h
  | succ depth ih =>
      intro text p rest h
      rw [readNegation] at h
      split at h
      · rename_i predicate behind hfound
        cases h
        rw [Option.orElse_eq_orElse, Option.orElse_eq_or] at hfound
        obtain hnegated | ⟨-, hgroup⟩ := Option.or_eq_some_iff.1 hfound
        · obtain ⟨_, inner, -, hinner, rfl⟩ := readNegated?_eq_some_iff.1 hnegated
          exact hnot inner (ih _ _ _ hinner)
        · obtain ⟨_, _, -, hinner, -⟩ := readGroup?_eq_some_iff.1 hgroup
          exact ih.readDisjunction hand hor _ _ _ hinner
      · obtain ⟨lhs, op, rhs, _, _, hlhs, -, hrhs, rfl⟩ := readComparison_eq_done_iff.1 h
        exact hcompare op lhs rhs ⟨_, _, hlhs⟩ ⟨_, _, hrhs⟩

/-- A predicate that is read has what comparisons of operands have that are read, if connectives
keep it. -/
theorem forall_of_readPredicate (h : readPredicate condition = .ok p) : P p := by
  obtain ⟨rest, hread, -⟩ := readDisjunction_of_readPredicate h
  exact (yields_readNegation hand hor hnot hcompare).readDisjunction hand hor _ _ _ hread

end

/-! ## Words -/

/-- The word of an operand is a run of word characters. -/
theorem isWordChar_of_operand? (h : operand? text = some (operand, rest)) :
    ∀ w ∈ operand.words, w.all isWordChar := by
  rw [operand?, Option.orElse_eq_orElse, Option.orElse_eq_or] at h
  obtain hliteral | ⟨-, hword⟩ := Option.or_eq_some_iff.1 h
  · obtain ⟨⟨value, behind⟩, -, hvalue⟩ := Option.map_eq_some_iff.1 hliteral
    cases hvalue
    exact List.forall_mem_nil _
  · obtain ⟨⟨run, behind⟩, hrun, hvalue⟩ := Option.map_eq_some_iff.1 hword
    cases hvalue
    unfold word? at hrun
    split at hrun
    · cases hrun
      exact List.forall_mem_singleton.2 List.all_takeWhile
    · cases hrun

/-- The words of a condition are made of characters of words. -/
theorem isWordChar_of_readPredicate (h : readPredicate condition = .ok p) :
    ∀ w ∈ p.words, w.all isWordChar := by
  refine forall_of_readPredicate (P := fun p => ∀ w ∈ p.words, w.all isWordChar)
    (fun p q hp hq => List.forall_mem_append.2 ⟨hp, hq⟩)
    (fun p q hp hq => List.forall_mem_append.2 ⟨hp, hq⟩) (fun p hp => hp) ?_ h
  rintro op lhs rhs ⟨_, _, hlhs⟩ ⟨_, _, hrhs⟩
  exact List.forall_mem_append.2 ⟨isWordChar_of_operand? hlhs, isWordChar_of_operand? hrhs⟩

/-- No run of word characters is a wildcard. -/
theorem isWildcard_of_isWordChar (h : text.all isWordChar) : Schema.isWildcard text = false := by
  cases text with
  | nil => rfl
  | cons c text =>
      have hc : isWordChar c := List.all_eq_true.1 h c List.mem_cons_self
      have hstar : c ≠ '*' := ne_of_isWordChar hc (isWordChar_of_mem (by decide))
      have hcircumflex : c ≠ '^' := ne_of_isWordChar hc (isWordChar_of_mem (by decide))
      simp [Schema.isWildcard, Schema.isExpression, hstar, hcircumflex]

/-- The words of a condition are no wildcards. -/
theorem isWildcard_of_readPredicate (h : readPredicate condition = .ok p) :
    ∀ w ∈ p.words, Schema.isWildcard w = false :=
  fun w hw => isWildcard_of_isWordChar (isWordChar_of_readPredicate h w hw)

end RelQuery.Condition
