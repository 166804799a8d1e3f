import RelQuery.Proofs.Condition.Attributes
import RelQuery.Proofs.Condition.Operands
import RelQuery.Proofs.Evaluate.Selection
import RelQuery.Proofs.Table.Catalog
import RelQuery.Proofs.Table.Projection

/-!
# Evaluating projections

A projection takes the columns that its attributes refer to and leaves out repeated rows. A
selection can be made before it or after it, if the attributes have every column that the condition
names (`evaluate_select_project`). Of two projections one is enough, if every attribute refers to
its own column; an attribute that is a wildcard can refer to others, and not to the same ones after
a projection as before (`evaluate_project_project`).
-/

namespace RelQuery

open Condition (Predicate readAttributes readPredicate)

variable {catalog : Catalog} {e : Expr} {frame first f : Frame} {schema : Schema} {p : Predicate}
variable {list condition source inner outer back : Text} {names wanted referred : List Text}
variable {name : Text}

/-! ## Columns of projections -/

/-- A projection on some attributes takes those columns. -/
structure Schema.Projects (schema : Schema) (names referred : List Text) : Prop where
  mem : ∀ name ∈ names, name ∈ schema.names
  referred_eq : schema.referredAll? names = some referred
  nodup : referred.Nodup

namespace Schema.Projects

/-- Columns that are projected to are columns. -/
theorem mem_names (h : schema.Projects names referred) : ∀ name ∈ referred, name ∈ schema.names :=
  mem_names_of_referredAll? h.referred_eq h.mem

/-- Attributes that refer to their own columns take these. -/
theorem of_self (hmem : ∀ name ∈ names, name ∈ schema.names)
    (hself : ∀ name ∈ names, schema.referred? name = some [name]) (hnodup : names.Nodup) :
    schema.Projects names names :=
  ⟨hmem, referredAll?_of_self hself, hnodup⟩

/-- An attribute that is no wildcard is among the columns. -/
theorem mem_of_isWildcard (h : schema.Projects names referred) (hname : name ∈ names)
    (hwildcard : isWildcard name = false) : name ∈ referred := by
  obtain ⟨part, hpart, hsublist⟩ := exists_sublist_of_referredAll? h.referred_eq hname
  cases (referred?_eq hwildcard).symm.trans hpart
  exact hsublist.subset List.mem_cons_self

end Schema.Projects

/-! ## Results of projections -/

/-- What a projection makes of a frame, once its list has been read. -/
theorem unaryResult_project_iff (hlist : readAttributes list = .ok names) :
    UnaryResult list f .project frame ↔
      ∃ referred, f.schema.Projects names referred ∧ (f.select referred).distinct = frame := by
  constructor
  · intro hresult
    cases hresult with
    | project hread hmem hreferred hnodup =>
        cases hlist.symm.trans hread
        rw [Schema.names_select (Schema.mem_names_of_referredAll? hreferred hmem)] at hnodup
        exact ⟨_, ⟨hmem, hreferred, hnodup⟩, rfl⟩
  · rintro ⟨referred, h, rfl⟩
    refine .project hlist h.mem h.referred_eq ?_
    rw [Schema.names_select h.mem_names]
    exact h.nodup

/-- A projection evaluates to the columns that its names refer to, without repetitions. -/
theorem evaluate_project_eq_ok_iff (hlist : readAttributes list = .ok names) :
    evaluate catalog (.unary .project list e source) = .ok frame ↔
      ∃ f referred, evaluate catalog e = .ok f ∧ f.schema.Projects names referred ∧
        (f.select referred).distinct = frame := by
  simp only [evaluate_unary_eq_ok_iff, unaryResult_project_iff hlist, exists_and_left]

/-- There is no projection on a list that cannot be read. -/
theorem evaluate_project_ne_ok {error : Condition.ConditionError}
    (hlist : readAttributes list = .error error) :
    evaluate catalog (.unary .project list e source) ≠ .ok frame := by
  intro h
  obtain ⟨f, -, hresult⟩ := evaluate_unary_eq_ok_iff.1 h
  cases hresult with
  | project hread => cases hlist.symm.trans hread

/-- The projection of a frame that has been evaluated. -/
theorem evaluate_project_of_ok (hlist : readAttributes list = .ok names)
    (he : evaluate catalog e = .ok f) :
    evaluate catalog (.unary .project list e source) = .ok frame ↔
      ∃ referred, f.schema.Projects names referred ∧ (f.select referred).distinct = frame :=
  (evaluate_unary_iff_result he).trans (unaryResult_project_iff hlist)

/-! ## Selections and projections -/

/-- The rows on which a predicate is true are the same ones before a projection and after it. -/
theorem Frame.filter_project (hwanted : ∀ name ∈ wanted, name ∈ f.schema.names)
    (hwords : ∀ w ∈ p.words, w ∈ f.schema.names → w ∈ wanted) :
    (f.select wanted).distinct.filter (p.keeps (f.schema.select wanted)) =
      ((f.filter (p.keeps f.schema)).select wanted).distinct := by
  rw [← distinct_filter fun _ _ => Predicate.keeps_of_key]
  refine congrArg distinct (filter_select fun _ _ => ?_)
  exact Predicate.keeps_cells (Schema.names_select hwanted) fun w hw => ⟨hwanted w, hwords w hw⟩

/-- A selection from a projection is the projection of a selection, with the same rows in the same
order, and they fail together, if the projection has all columns that words of the condition
name. -/
theorem evaluate_select_project (hread : readPredicate condition = .ok p)
    (hwords : ∀ f names, evaluate catalog e = .ok f → readAttributes list = .ok names →
      ∀ w ∈ p.words, w ∈ f.schema.names → w ∈ names) :
    evaluate catalog (.unary .select condition (.unary .project list e inner) source) = .ok frame ↔
      evaluate catalog (.unary .project list (.unary .select condition e back) outer) =
        .ok frame := by
  cases hlist : readAttributes list with
  | error error =>
      have hnot {e : Expr} {source : Text} {f : Frame} :
          evaluate catalog (.unary .project list e source) ≠ .ok f := evaluate_project_ne_ok hlist
      simp [evaluate_select_eq_ok_iff hread, hnot]
  | ok names =>
      -- A word is no wildcard, so that it is among the columns that are taken.
      have hkept {f : Frame} {referred : List Text} (he : evaluate catalog e = .ok f)
          (h : f.schema.Projects names referred) :
          ∀ w ∈ p.words, w ∈ f.schema.names → w ∈ referred := fun w hw hname =>
        h.mem_of_isWildcard (hwords f names he hlist w hw hname)
          (Condition.isWildcard_of_readPredicate hread w hw)
      simp only [evaluate_select_eq_ok_iff hread, evaluate_project_eq_ok_iff hlist]
      constructor
      · rintro ⟨_, ⟨f, referred, he, h, rfl⟩, hcomparable, rfl⟩
        have hwhole := Predicate.comparable_select h.mem_names (hkept he h) ▸ hcomparable
        exact ⟨_, referred, ⟨f, he, hwhole, rfl⟩, h,
          (Frame.filter_project h.mem_names (hkept he h)).symm⟩
      · rintro ⟨_, referred, ⟨f, he, hcomparable, rfl⟩, h, rfl⟩
        have h : f.schema.Projects names referred := h
        have hpart := (Predicate.comparable_select h.mem_names (hkept he h)).symm ▸ hcomparable
        exact ⟨_, ⟨f, referred, he, h, rfl⟩, hpart, Frame.filter_project h.mem_names (hkept he h)⟩

/-- A condition with a word that names no column, and rows that are equal once a column is left
out. -/
theorem evaluate_select_project_repeated :
    let table : Frame := ⟨[⟨['A'], .int64⟩, ⟨['B'], .text⟩, ⟨['C'], .int64⟩],
      [[.int 1, .text ['x'], .int 7], [.int 5, .text ['x'], .int 8], [.missing, .text ['x'], .int 9],
        [.int 1, .text ['x'], .int 9], [.int 2, .text ['y'], .int 7]]⟩
    let catalog : Catalog := ⟨[(['R'], table)]⟩
    let condition : Text := "A < 3 and not B = z".toList
    let list : Text := "B, A".toList
    let p : Predicate := .and (.compare .lt (.word ['A']) (.literal (.int 3)))
      (.not (.compare .eq (.word ['B']) (.word ['z'])))
    let selected (e : Expr) : Expr := .unary .select condition e []
    let projected (e : Expr) : Expr := .unary .project list e []
    let result : Frame := ⟨[⟨['B'], .text⟩, ⟨['A'], .int64⟩],
      [[.text ['x'], .int 1], [.text ['y'], .int 2]]⟩
    readPredicate condition = .ok p ∧
      (∀ f names, evaluate catalog (.named ['R']) = .ok f → readAttributes list = .ok names →
        ∀ w ∈ p.words, w ∈ f.schema.names → w ∈ names) ∧
      evaluate catalog (selected (projected (.named ['R']))) = .ok result ∧
      evaluate catalog (projected (selected (.named ['R']))) = .ok result := by
  intro table catalog condition list p selected projected result
  have hread : readPredicate condition = .ok p := rfl
  have hwords : ∀ f names, evaluate catalog (.named ['R']) = .ok f →
      readAttributes list = .ok names → ∀ w ∈ p.words, w ∈ f.schema.names → w ∈ names := by
    intro f names hf hnames
    have htable : evaluate catalog (.named ['R']) = .ok table := rfl
    have hlist : readAttributes list = .ok [['B'], ['A']] := rfl
    cases htable.symm.trans hf
    cases hlist.symm.trans hnames
    decide
  have hselected : evaluate catalog (selected (projected (.named ['R']))) = .ok result := rfl
  exact ⟨hread, hwords, hselected, (evaluate_select_project hread hwords).1 hselected⟩

/-! ## Projections of projections -/

/-- A projection on some of the attributes of a projection. For all lists of these it is the
projection on them alone, with the first of the rows that become equal, exactly if each of the
attributes refers to its own column, as all do that are no wildcards. -/
theorem evaluate_project_project (he : evaluate catalog e = .ok first)
    (hlist : readAttributes list = .ok names) (hmem : ∀ name ∈ names, name ∈ first.schema.names)
    (hnodup : names.Nodup) :
    (∀ part wanted, readAttributes part = .ok wanted → wanted.Nodup →
      (∀ name ∈ wanted, name ∈ names) →
      evaluate catalog (.unary .project part (.unary .project list e inner) source) =
          .ok (first.select wanted).distinct ∧
        evaluate catalog (.unary .project part e outer) = .ok (first.select wanted).distinct) ↔
      ∀ name ∈ names, first.schema.referred? name = some [name] := by
  constructor
  · intro h name hname
    have hread := (Condition.isAttribute_of_readAttributes hlist name hname).readAttributes
    obtain ⟨-, hsingle⟩ := h name [name] hread (List.nodup_singleton name)
      (List.forall_mem_singleton.2 hname)
    obtain ⟨referred, hprojects, hframe⟩ := (evaluate_project_of_ok hread he).1 hsingle
    have hnames : (first.schema.select referred).names = (first.schema.select [name]).names :=
      congrArg (fun f => f.schema.names) hframe
    rw [Schema.names_select hprojects.mem_names, Schema.names_select hprojects.mem] at hnames
    rw [← Schema.referredAll?_singleton, hprojects.referred_eq, hnames]
  · intro hself part wanted hpart hwanted hsub
    have hwantedMem : ∀ name ∈ wanted, name ∈ first.schema.names :=
      fun name hname => hmem name (hsub name hname)
    have hfirst : evaluate catalog (.unary .project list e inner) =
        .ok (first.select names).distinct :=
      (evaluate_project_of_ok hlist he).2 ⟨names, .of_self hmem hself hnodup, rfl⟩
    have hsecond : (first.schema.select names).Projects wanted wanted := by
      refine .of_self ?_ (fun name hname => ?_) hwanted
      · rwa [Schema.names_select hmem]
      · exact Schema.referred?_select_of_self (hself name (hsub name hname)) hmem hnodup
          (hsub name hname)
    constructor
    · refine (evaluate_project_of_ok hpart hfirst).2 ⟨wanted, hsecond, ?_⟩
      rw [Frame.distinct_select_distinct, Frame.select_select hsub hmem]
    · exact (evaluate_project_of_ok hpart he).2 ⟨wanted, .of_self hwantedMem
        (fun name hname => hself name (hsub name hname)) hwanted, rfl⟩

/-- Rows that become equal in one of two columns, with zeros and NaNs of which the first are kept. -/
theorem evaluate_project_project_repeated :
    let zero : Cell := .float ⟨0⟩
    let negativeZero : Cell := .float ⟨0x8000000000000000⟩
    let table : Frame := ⟨[⟨['A'], .float64⟩, ⟨['B'], .text⟩],
      [[negativeZero, .text ['x']], [.missing, .text ['x']], [zero, .text ['y']],
        [.missing, .missing], [zero, .text ['x']]]⟩
    let catalog : Catalog := ⟨[(['R'], table)]⟩
    let list : Text := "B, A".toList
    let part : Text := " A ".toList
    let projected (list : Text) (e : Expr) : Expr := .unary .project list e []
    let result : Frame := ⟨[⟨['A'], .float64⟩], [[negativeZero], [.missing]]⟩
    evaluate catalog (.named ['R']) = .ok table ∧ readAttributes list = .ok [['B'], ['A']] ∧
      (∀ name ∈ [['B'], ['A']], name ∈ table.schema.names) ∧ [['B'], ['A']].Nodup ∧
      (∀ name ∈ [['B'], ['A']], table.schema.referred? name = some [name]) ∧
      evaluate catalog (projected part (projected list (.named ['R']))) = .ok result ∧
      evaluate catalog (projected part (.named ['R'])) = .ok result := by
  intro zero negativeZero table catalog list part projected result
  have he : evaluate catalog (.named ['R']) = .ok table := rfl
  have hlist : readAttributes list = .ok [['B'], ['A']] := rfl
  have hpart : readAttributes part = .ok [['A']] := rfl
  have hmem : ∀ name ∈ [['B'], ['A']], name ∈ table.schema.names := by decide
  have hnodup : [['B'], ['A']].Nodup := by decide
  have hself : ∀ name ∈ [['B'], ['A']], table.schema.referred? name = some [name] := by decide
  have hresult : (table.select [['A']]).distinct = result := rfl
  have hboth : evaluate catalog (projected part (projected list (.named ['R']))) =
      .ok (table.select [['A']]).distinct ∧
        evaluate catalog (projected part (.named ['R'])) = .ok (table.select [['A']]).distinct :=
    (evaluate_project_project he hlist hmem hnodup).2 hself part [['A']] hpart (by decide)
      (by decide)
  exact ⟨he, hlist, hmem, hnodup, hself, hresult ▸ hboth.1, hresult ▸ hboth.2⟩

/-- An attribute that is a regular expression for the name of another one refers to this one too, so
that the projection on both would have one column twice; the projection on the other alone has it
once. -/
theorem not_evaluate_project_project :
    ¬ ∀ (catalog : Catalog) (e : Expr) (first frame : Frame) (list part : Text)
        (names wanted : List Text), catalog.Rectangular → evaluate catalog e = .ok first →
      readAttributes list = .ok names → (∀ name ∈ names, name ∈ first.schema.names) →
      names.Nodup → readAttributes part = .ok wanted → (∀ name ∈ wanted, name ∈ names) →
      wanted.Nodup →
      (evaluate catalog (.unary .project part (.unary .project list e []) []) = .ok frame ↔
        evaluate catalog (.unary .project part e []) = .ok frame) := by
  intro h
  let table : Frame := ⟨[⟨"^A$".toList, .int64⟩, ⟨['A'], .int64⟩],
    [[.int 1, .int 3], [.int 2, .int 4]]⟩
  let catalog : Catalog := ⟨[(['R'], table)]⟩
  let list : Text := "^A$, A".toList
  let names : List Text := ["^A$".toList, ['A']]
  have hcatalog : catalog.Rectangular := fun _ _ => Catalog.forall_of_get?
    (List.forall_mem_singleton.2 ⟨by decide, by decide⟩)
  have hlist : readAttributes list = .ok names := rfl
  have hpart : readAttributes ['A'] = .ok [['A']] := rfl
  have hsingle : evaluate catalog (.unary .project ['A'] (.named ['R']) []) =
      .ok ⟨[⟨['A'], .int64⟩], [[.int 3], [.int 4]]⟩ := rfl
  have hnested : evaluate catalog
      (.unary .project ['A'] (.unary .project list (.named ['R']) []) []) =
        .error (.fault .repeatedColumn) := by
    decide +kernel
  have hnone := (h catalog (.named ['R']) table _ list ['A'] names [['A']] hcatalog rfl hlist
    (by decide) (by decide) hpart (by decide) (by decide)).2 hsingle
  cases hnested.symm.trans hnone

end RelQuery
