import RelQuery.Proofs.Evaluate.Resolve
import RelQuery.Proofs.Syntax.Known
import RelQuery.Proofs.Syntax.Turn
import RelQuery.Proofs.Table.Catalog

/-!
# Running a query with its relations checked first

`run` refuses a relation that the catalog does not have while it reads the query. Without the check
the same relation is missed when the query is evaluated, so that the check changes no result and no
error but the ones about such relations (`run_agrees_without_check`).
-/

namespace RelQuery

open Syntax (Vetted)

variable {catalog : Catalog} {query : Text} {frame : Frame} {e : Expr}

/-- How the query is read by `run`. -/
theorem readQuery_vetted (catalog : Catalog) (query : Text) :
    Vetted catalog.settings Expr.relationNames (Syntax.readQuery catalog.settings query)
      (Syntax.readQuery {} query) :=
  Syntax.read_vetted catalog.settings (Operator.symbolize query)

/-- An expression with a relation that the catalog does not have is not evaluated. -/
theorem exists_error_of_firstUnknown? {name : Text}
    (h : catalog.settings.firstUnknown? e.relationNames = some name) :
    ∃ cause, evaluate catalog e = .error cause := by
  have hmem : name ∈ e.relationNames := List.mem_of_find?_eq_some h
  have hunknown : catalog.contains name = false := by
    simpa [Syntax.Settings.allows, Catalog.settings, Catalog.contains] using List.find?_some h
  cases hevaluate : evaluate catalog e with
  | error cause => exact ⟨cause, rfl⟩
  | ok frame =>
      obtain ⟨plan, -, hplan, -⟩ := evaluate_eq_ok_iff.1 hevaluate
      have hget := get?_isSome_of_resolve hplan name hmem
      rw [← Catalog.contains_iff_isSome_get?, hunknown] at hget
      cases hget

/-- Checking the relations of a query while it is read gives the same results as not checking them,
the same errors of evaluation and the same errors of reading, but for those about a relation: that
relation is not in the catalog, and without the check the query fails too. -/
theorem run_agrees_without_check (catalog : Catalog) (query : Text) :
    (∀ frame, run catalog query = .ok frame ↔ ∃ n, Syntax.readQuery {} query = .ok n ∧
      evaluate catalog n = .ok frame) ∧
    (∀ cause, run catalog query = .error (.eval cause) → ∃ n, Syntax.readQuery {} query = .ok n ∧
      evaluate catalog n = .error cause) ∧
    (∀ e, run catalog query = .error (.read e) → (∀ name, e.cause ≠ .unknownRelation name) →
      Syntax.readQuery {} query = .error e) ∧
    ∀ e name, run catalog query = .error (.read e) → e.cause = .unknownRelation name →
      catalog.contains name = false ∧ ((∃ e', Syntax.readQuery {} query = .error e') ∨
        ∃ n cause, Syntax.readQuery {} query = .ok n ∧ evaluate catalog n = .error cause) := by
  have hvetted := readQuery_vetted catalog query
  simp only [run_eq_ok_iff, run_eq_eval_iff, run_eq_read_iff]
  refine ⟨fun frame => ⟨?_, ?_⟩, ?_, ?_, ?_⟩
  · rintro ⟨n, hread, hframe⟩
    rw [hread] at hvetted
    exact ⟨n, hvetted.free_eq_ok, hframe⟩
  · rintro ⟨n, hread, hframe⟩
    rw [hread] at hvetted
    rcases hvetted.checked_cases with hchecked | ⟨name, hfirst⟩
    · exact ⟨n, hchecked, hframe⟩
    · obtain ⟨cause, hcause⟩ := exists_error_of_firstUnknown? hfirst
      rw [hframe] at hcause
      cases hcause
  · rintro cause ⟨n, hread, hcause⟩
    rw [hread] at hvetted
    exact ⟨n, hvetted.free_eq_ok, hcause⟩
  · intro e hread hother
    rw [hread] at hvetted
    rcases hvetted.free_cases with hfree | ⟨name, hcause, -⟩
    · exact hfree
    · exact absurd hcause (hother name)
  · intro e name hread hcause
    refine ⟨Syntax.onlyUnknown_read catalog.settings _ e name hread hcause, ?_⟩
    rw [hread] at hvetted
    rcases hvetted.free_cases with hfree | ⟨first, -, hfirst⟩
    · exact .inl ⟨e, hfree⟩
    · cases hfree : Syntax.readQuery {} query with
      | error e' => exact .inl ⟨e', rfl⟩
      | ok n =>
          obtain ⟨cause, hcause⟩ := exists_error_of_firstUnknown? (hfirst n hfree)
          exact .inr ⟨n, cause, rfl, hcause⟩

/-- Three queries that fail: columns do not fit, the text ends too soon, and a relation in a group
is not in the catalog. -/
theorem run_agrees_without_check_failures :
    let catalog : Catalog := ⟨[(['R'], ⟨[⟨['A'], .int64⟩], [[.int 1]]⟩),
      (['S'], ⟨[⟨['B'], .int64⟩], [[.int 2]]⟩)]⟩
    (run catalog "R union S".toList =
        .error (.eval (.incompatibleSchemas .union [['A']] [['B']])) ∧
      ∃ n, Syntax.readQuery {} "R union S".toList = .ok n ∧
        evaluate catalog n = .error (.incompatibleSchemas .union [['A']] [['B']])) ∧
    (run catalog "R union".toList = .error (.read ⟨.unfinished, 3, none, .operand⟩) ∧
      Syntax.readQuery {} "R union".toList = .error ⟨.unfinished, 3, none, .operand⟩) ∧
    run catalog "R union (S minus Q)".toList =
        .error (.read ⟨.unknownRelation ['Q'], 4, some 'Q', .operand⟩) ∧
      catalog.contains ['Q'] = false ∧
      ((∃ e', Syntax.readQuery {} "R union (S minus Q)".toList = .error e') ∨
        ∃ n cause, Syntax.readQuery {} "R union (S minus Q)".toList = .ok n ∧
          evaluate catalog n = .error cause) := by
  intro catalog
  have hcolumns : run catalog "R union S".toList =
      .error (.eval (.incompatibleSchemas .union [['A']] [['B']])) := by
    rfl
  have hend : run catalog "R union".toList =
      .error (.read ⟨.unfinished, 3, none, .operand⟩) := by
    rfl
  have hunknown : run catalog "R union (S minus Q)".toList =
      .error (.read ⟨.unknownRelation ['Q'], 4, some 'Q', .operand⟩) := by
    rfl
  exact ⟨⟨hcolumns, (run_agrees_without_check catalog _).2.1 _ hcolumns⟩,
    ⟨hend, (run_agrees_without_check catalog _).2.2.1 _ hend nofun⟩,
    hunknown, (run_agrees_without_check catalog _).2.2.2 _ _ hunknown rfl⟩

end RelQuery
