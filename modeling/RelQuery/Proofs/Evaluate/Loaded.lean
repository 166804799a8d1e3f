import RelQuery.Files.Load
import RelQuery.Proofs.Evaluate.Resolve
import RelQuery.Proofs.Syntax.Names
import RelQuery.Proofs.Table.Catalog

/-!
# Querying loaded relations by their names

All names in a catalog that has been loaded are relation names (`isRelationName_of_mem_names`),
whatever reads the files. Such a name by itself is a query for its relation, unless a word for an
operator occurs in it (`run_loaded_name`).
-/

namespace RelQuery

namespace Loader

variable {α : Type} [DecidableEq α] [PathChar α]
variable {load : List α → Except LoadError Frame} {catalog : Catalog} {name : Text}
variable {path : List α} {files : List (List α)}

/-- Loading a file adds no name but a relation name. -/
theorem isRelationName_loadInto (h : ∀ name ∈ catalog.names, isRelationName name) :
    ∀ name ∈ (loadInto load catalog path).1.names, isRelationName name := by
  by_cases hname : isRelationName (Path.relationName path)
  · simp only [loadInto, hname, if_true]
    cases load path with
    | error e => exact h
    | ok frame =>
        intro name hmem
        rcases Catalog.mem_names_insert.1 hmem with rfl | hmem
        · exact hname
        · exact h name hmem
  · simp only [loadInto, hname]
    exact h

/-- Neither do all files. -/
theorem isRelationName_loadAll (h : ∀ name ∈ catalog.names, isRelationName name) :
    ∀ name ∈ (loadAll load catalog files).1.names, isRelationName name := by
  induction files generalizing catalog with
  | nil => exact h
  | cons path files ih => exact ih (isRelationName_loadInto h)

/-- A catalog is loaded with relation names only. -/
theorem isRelationName_of_mem_names (h : name ∈ (loadAll load .empty files).1.names) :
    isRelationName name :=
  isRelationName_loadAll (by simp [Catalog.names, Catalog.empty]) name h

end Loader

variable {catalog : Catalog} {name source : Text} {frame : Frame}

/-- A relation is evaluated to its frame. -/
theorem evaluate_relation (h : catalog.get? name = some frame) :
    evaluate catalog (.relation name source) = .ok frame :=
  evaluate_eq_ok_iff.2
    ⟨.scan frame, frame.schema, resolve_relation_eq_ok_iff.2 ⟨frame, h, rfl⟩, rfl, rfl, rfl⟩

/-- The name of a relation in the catalog is a query for it if no word for an operator occurs in
it. -/
theorem run_name (hname : isRelationName name) (hspelled : ¬ Operator.Spelled name)
    (h : catalog.get? name = some frame) : run catalog name = .ok frame := by
  have hallowed : catalog.settings.allows name := by
    simpa [Syntax.Settings.allows, Catalog.settings] using Catalog.mem_names_of_get? h
  exact run_eq_ok_iff.2 ⟨.named name, (Syntax.readQuery_name_iff hname hallowed).2 hspelled,
    evaluate_relation h⟩

/-- A relation name is a query for the relation of just that name if and only if no word for an
operator occurs in it. Every relation that has been loaded under such a name is what its name is
evaluated to, whatever files were loaded and whatever reads them. -/
theorem run_loaded_name :
    (∀ name, isRelationName name →
      (Syntax.readQuery {} name = .ok (.named name) ↔ ¬ Operator.Spelled name)) ∧
    ∀ {α : Type} [DecidableEq α] [PathChar α] (load : List α → Except LoadError Frame)
      (files : List (List α)) (name : Text) (frame : Frame),
      (Loader.loadAll load .empty files).1.get? name = some frame →
      ¬ Operator.Spelled name → run (Loader.loadAll load .empty files).1 name = .ok frame := by
  constructor
  · intro name hname
    exact Syntax.readQuery_name_iff hname rfl
  · intro α _ _ load files name frame hframe hspelled
    exact run_name (Loader.isRelationName_of_mem_names (Catalog.mem_names_of_get? hframe)) hspelled
      hframe

/-- Of two files of one name in different formats the one that is loaded last is queried. Its name
spells an operator in neither of the two ways. -/
theorem run_loaded_name_unions :
    let disk : Disk Char :=
      { find? := fun path => if path = ".".toList then none else some .file
        read := fun format _ =>
          match format with
          | .csv => .ok ⟨[⟨['A'], .text⟩], []⟩
          | .parquet => .ok ⟨[⟨['A'], .int64⟩], [[.int 1]]⟩
          | .ipc => .error .unreadable }
    let files := ["Unions.csv".toList, "Unions.parquet".toList, "Unions.ipc".toList]
    let catalog := (Loader.loadCatalog disk files).1
    Syntax.readQuery {} "Unions".toList = .ok (.named "Unions".toList) ∧
      run catalog "Unions".toList = .ok ⟨[⟨['A'], .int64⟩], [[.int 1]]⟩ := by
  intro disk files catalog
  have hspelled : ¬ Operator.Spelled "Unions".toList := by decide +kernel
  have hframe : catalog.get? "Unions".toList = some ⟨[⟨['A'], .int64⟩], [[.int 1]]⟩ := by
    decide +kernel
  exact ⟨(run_loaded_name.1 _ (by decide +kernel)).2 hspelled,
    run_loaded_name.2 (Loader.loadFile disk) (Loader.collectFiles disk files) _ _ hframe hspelled⟩

/-- A name with the letter in it that stands for a product is no query for its relation, though the
relation has been loaded. -/
theorem not_run_loaded_name :
    ¬ (∀ name, isRelationName name → Syntax.readQuery {} name = .ok (.named name)) ∧
    ¬ ∀ (load : Text → Except LoadError Frame) (files : List Text) (name : Text) (frame : Frame),
      (Loader.loadAll load .empty files).1.get? name = some frame →
      run (Loader.loadAll load .empty files).1 name = .ok frame := by
  constructor
  · intro h
    have hname : isRelationName "TAX".toList := by decide +kernel
    have hread : Syntax.readQuery {} "TAX".toList = .error ⟨.unfinished, 3, none, .operand⟩ := by
      rfl
    cases hread.symm.trans (h _ hname)
  · intro h
    let load : Text → Except LoadError Frame := fun _ => .ok ⟨[⟨['A'], .int64⟩], [[.int 1]]⟩
    let catalog := (Loader.loadAll load .empty ["TAX.csv".toList]).1
    have hframe : catalog.get? "TAX".toList = some ⟨[⟨['A'], .int64⟩], [[.int 1]]⟩ := by
      decide +kernel
    have hrun : run catalog "TAX".toList =
        .error (.read ⟨.unknownRelation "TA".toList, 0, some 'T', .start⟩) := by
      rfl
    cases hrun.symm.trans (h _ _ _ _ hframe)

end RelQuery
