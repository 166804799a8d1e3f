import RelQuery.Proofs.Evaluate.Resolve
import RelQuery.Proofs.Table.Joins
import RelQuery.Proofs.Table.Projection
import RelQuery.Proofs.Table.References
import Mathlib.Data.List.Perm.Subperm

/-!
# The relations that plans show

A plan shows a relation if its frame is clean and shows it whenever the plan can be carried out.
The plan of each operator shows what the operator makes of the relations that the plans of its
operands show. Checks of columns come first in carrying out a plan, and the proofs rest on them: no
name is repeated in a schema, and columns that are matched are referred to by their names.
-/

namespace RelQuery

/-- Whenever the plan can be carried out, its frame is clean and shows the relation. -/
def Plan.Shows (plan : Plan) (r : Relation) : Prop :=
  ∀ schema, plan.schema = .ok schema → plan.comparable →
    plan.frame.Clean ∧ plan.frame.relation = r

variable {plan input left right : Plan} {schema leftSchema rightSchema : Schema}
variable {names referred : List Text} {r s : Relation} {op : Operator}

/-! ## Columns of plans -/

namespace Plan

/-- Columns pass the check if no name is there twice. -/
theorem checkNames_eq_ok_iff {checked : Schema} :
    checkNames schema = .ok checked ↔ schema.names.Nodup ∧ schema = checked := by
  rw [checkNames]
  by_cases h : schema.names.Nodup
  · simp [Schema.distinctNames, h]
  · simp [Schema.distinctNames, h]

/-- Columns can be selected if every name refers to some and none is selected twice. -/
theorem schema_select_eq_ok_iff : (select names input).schema = .ok schema ↔
    ∃ inner referred, input.schema = .ok inner ∧ inner.referredAll? names = some referred ∧
      (inner.select referred).names.Nodup ∧ inner.select referred = schema := by
  rw [Plan.schema, bind_eq_ok_iff]
  constructor
  · rintro ⟨inner, hinner, h⟩
    rw [checkSelect] at h
    cases hreferred : inner.referredAll? names with
    | none =>
        rw [hreferred] at h
        cases h
    | some referred =>
        rw [hreferred] at h
        exact ⟨inner, referred, hinner, hreferred, checkNames_eq_ok_iff.1 h⟩
  · rintro ⟨inner, referred, hinner, hreferred, h⟩
    refine ⟨inner, hinner, ?_⟩
    rw [checkSelect, hreferred]
    exact checkNames_eq_ok_iff.2 h

/-- Rows can be appended if they are over the same columns in any order. -/
theorem schema_append_eq_ok_iff : (append left right).schema = .ok schema ↔
    left.schema = .ok schema ∧ ∃ other, right.schema = .ok other ∧ schema.Perm other := by
  simp only [Plan.schema, bind_eq_ok_iff]
  constructor
  · rintro ⟨l, hl, r, hr, h⟩
    split at h
    · rename_i hperm
      cases h
      exact ⟨hl, r, hr, hperm⟩
    · cases h
  · rintro ⟨hl, r, hr, hperm⟩
    exact ⟨schema, hl, r, hr, if_pos hperm⟩

/-- Columns can be matched if there are some, none is a wildcard, and they have types whose values
match. -/
theorem checkMatch_eq_ok_iff :
    checkMatch names leftSchema rightSchema = .ok () ↔
      names ≠ [] ∧ (∀ name ∈ names, Schema.isWildcard name = false) ∧
        ∀ name ∈ names, ∃ a b, leftSchema.column? name = some a ∧
          rightSchema.column? name = some b ∧ a.dtype.matchable b.dtype := by
  rw [checkMatch]
  split_ifs with hempty hany hall
  · simp [List.isEmpty_iff.1 hempty]
  · obtain ⟨name, hname, hwildcard⟩ := List.any_eq_true.1 hany
    have hnot : ¬ ∀ name ∈ names, Schema.isWildcard name = false := by
      intro h
      rw [h name hname] at hwildcard
      cases hwildcard
    simp [hnot]
  · refine iff_of_true rfl ⟨by simpa using hempty, by simpa using hany, fun name hname => ?_⟩
    have h := List.all_eq_true.1 hall name hname
    cases hleft : leftSchema.column? name with
    | none => simp [hleft] at h
    | some a =>
        cases hright : rightSchema.column? name with
        | none => simp [hleft, hright] at h
        | some b => exact ⟨a, b, rfl, rfl, by simpa [hleft, hright] using h⟩
  · refine iff_of_false (by simp) ?_
    rintro ⟨-, -, htypes⟩
    refine hall (List.all_eq_true.2 fun name hname => ?_)
    obtain ⟨a, b, hleft, hright, hmatchable⟩ := htypes name hname
    simp [hleft, hright, hmatchable]

/-- Columns that can be matched are referred to by their names. -/
theorem isWildcard_of_checkMatch (h : checkMatch names leftSchema rightSchema = .ok ()) :
    ∀ name ∈ names, Schema.isWildcard name = false :=
  (checkMatch_eq_ok_iff.1 h).2.1

/-- Rows can be kept by their partners if the columns to match have the same types. -/
theorem schema_semiJoin_eq_ok_iff : (semiJoin names left right).schema = .ok schema ↔
    ∃ rightSchema, left.schema = .ok schema ∧ right.schema = .ok rightSchema ∧
      checkMatch names schema rightSchema = .ok () := by
  simp only [Plan.schema, bind_eq_ok_iff]
  constructor
  · rintro ⟨l, hl, r, hr, ⟨⟩, hmatch, h⟩
    cases h
    exact ⟨r, hl, hr, hmatch⟩
  · rintro ⟨r, hl, hr, hmatch⟩
    exact ⟨schema, hl, r, hr, (), hmatch, rfl⟩

/-- Rows can be joined under the same condition, if the names of the columns stay different. -/
theorem schema_innerJoin_eq_ok_iff : (innerJoin names left right).schema = .ok schema ↔
    ∃ leftSchema rightSchema, left.schema = .ok leftSchema ∧ right.schema = .ok rightSchema ∧
      checkMatch names leftSchema rightSchema = .ok () ∧
      (Schema.names (leftSchema ++ rightSchema.without names)).Nodup ∧
      leftSchema ++ rightSchema.without names = schema := by
  simp only [Plan.schema, bind_eq_ok_iff, checkNames_eq_ok_iff]
  constructor
  · rintro ⟨l, hl, r, hr, ⟨⟩, hmatch, h⟩
    exact ⟨l, r, hl, hr, hmatch, h⟩
  · rintro ⟨l, r, hl, hr, hmatch, h⟩
    exact ⟨l, hl, r, hr, (), hmatch, h⟩

/-- All rows can be combined if the names of the columns stay different. -/
theorem schema_product_eq_ok_iff : (product left right).schema = .ok schema ↔
    ∃ leftSchema rightSchema, left.schema = .ok leftSchema ∧ right.schema = .ok rightSchema ∧
      (Schema.names (leftSchema ++ leftSchema.besides rightSchema)).Nodup ∧
      leftSchema ++ leftSchema.besides rightSchema = schema := by
  simp only [Plan.schema, bind_eq_ok_iff, checkNames_eq_ok_iff]
  constructor
  · rintro ⟨l, hl, r, hr, h⟩
    exact ⟨l, r, hl, hr, h⟩
  · rintro ⟨l, r, hl, hr, h⟩
    exact ⟨l, hl, r, hr, h⟩

/-- The frame of a plan has the columns that have been checked. -/
theorem frame_schema_eq (h : plan.schema = .ok schema) : plan.frame.schema = schema := by
  induction plan generalizing schema with
  | scan frame =>
      cases h
      rfl
  | filter predicate input ih => exact ih h
  | select names input ih =>
      obtain ⟨inner, referred, hinner, hreferred, -, rfl⟩ := schema_select_eq_ok_iff.1 h
      simp [Plan.frame, Frame.select, ih hinner, hreferred]
  | distinct input ih => exact ih h
  | append left right ihl ihr => exact ihl (schema_append_eq_ok_iff.1 h).1
  | semiJoin names left right ihl ihr =>
      obtain ⟨-, hleft, -⟩ := schema_semiJoin_eq_ok_iff.1 h
      exact ihl hleft
  | antiJoin names left right ihl ihr =>
      obtain ⟨-, hleft, -⟩ := schema_semiJoin_eq_ok_iff.1 h
      exact ihl hleft
  | innerJoin names left right ihl ihr =>
      obtain ⟨leftSchema, rightSchema, hleft, hright, -, -, rfl⟩ := schema_innerJoin_eq_ok_iff.1 h
      simp [Plan.frame, Frame.innerJoin, ihl hleft, ihr hright]
  | product left right ihl ihr =>
      obtain ⟨leftSchema, rightSchema, hleft, hright, -, rfl⟩ := schema_product_eq_ok_iff.1 h
      simp [Plan.frame, Frame.product, ihl hleft, ihr hright]

/-- The relation has the columns that have been checked. -/
theorem Shows.columns_eq (h : plan.Shows r) (hschema : plan.schema = .ok schema)
    (hcomparable : plan.comparable) : r.columns = schema.names := by
  obtain ⟨-, hrelation⟩ := h schema hschema hcomparable
  rw [← hrelation, ← frame_schema_eq hschema]
  rfl

/-! ## Unary operators -/

/-- A clean frame shows its relation. -/
theorem shows_scan {frame : Frame} (h : frame.Clean) : (scan frame).Shows frame.relation :=
  fun _ _ _ => ⟨h, rfl⟩

/-- Filtering shows the selection. -/
theorem Shows.filter (h : input.Shows r) (predicate : Condition.Predicate) :
    (filter predicate input).Shows (r.select predicate) := by
  intro schema hschema hcomparable
  have hinput : input.schema = .ok schema := hschema
  simp only [comparable, hinput, Bool.and_eq_true] at hcomparable
  obtain ⟨hclean, hrelation⟩ := h schema hinput hcomparable.1
  refine ⟨hclean.filter _, ?_⟩
  rw [← hrelation]
  exact hclean.relation_keeps (frame_schema_eq hinput ▸ hcomparable.2)

/-- The columns of some attributes, without repeated rows. -/
theorem Shows.project (h : input.Shows r) (hinput : input.schema = .ok schema) (hne : names ≠ [])
    (hmem : ∀ name ∈ names, name ∈ schema.names)
    (hnames : ∀ name ∈ names, Schema.isWildcard name = false) :
    (distinct (select names input)).Shows (r.project names) := by
  intro selected hselected hcomparable
  obtain ⟨inner, referred, hinner, hreferred, hnodup, -⟩ := schema_select_eq_ok_iff.1 hselected
  cases hinput.symm.trans hinner
  rw [Schema.referredAll?_eq hnames] at hreferred
  cases hreferred
  rw [Schema.names_select hmem] at hnodup
  obtain ⟨hclean, hrelation⟩ := h schema hinput hcomparable
  have hschema := frame_schema_eq hinput
  have hframe : (select names input).frame = input.frame.select names := by
    rw [Plan.frame, hschema, Schema.referredAll?_eq hnames, Option.getD_some]
  rw [← hschema] at hmem
  have htyped := hclean.toTyped.select hnodup hmem
  rw [Plan.frame, hframe]
  refine ⟨htyped.distinct, ?_⟩
  rw [htyped.relation_distinct, Frame.relation_select hmem fun hnil => absurd hnil hne, hrelation]

/-! ## Set operators -/

end Plan

/-- Columns that are compared by their names are there on both sides. -/
theorem mem_of_sameColumns {columns others : List Text} (h : sameColumns columns others) :
    ∀ name ∈ columns, name ∈ others := by
  simp only [sameColumns, Bool.and_eq_true, List.all_eq_true, List.contains_iff_mem] at h
  exact h.2

/-- Columns without repetitions are compared up to their order. -/
theorem perm_of_sameColumns {columns others : List Text} (h : sameColumns columns others)
    (hnodup : columns.Nodup) : columns.Perm others := by
  simp only [sameColumns, Bool.and_eq_true, decide_eq_true_eq, List.all_eq_true,
    List.contains_iff_mem] at h
  have hsubset : columns ⊆ others := fun name hname => h.2 name hname
  exact (hnodup.subperm hsubset).perm_of_length_le h.1.ge

/-- Columns in another order are the same columns. -/
theorem sameColumns_of_perm {columns others : List Text} (h : columns.Perm others) :
    sameColumns columns others := by
  simpa [sameColumns, h.length_eq] using fun name => h.mem_iff.1

/-- Lists without repetitions have the same columns if they have the same members. -/
theorem mem_iff_of_sameColumns {columns others : List Text} (h : sameColumns columns others)
    (hnodup : columns.Nodup) (name : Text) : name ∈ others ↔ name ∈ columns :=
  (perm_of_sameColumns h hnodup).mem_iff.symm

/-- If the names on the left refer to the left columns on the right, then these are the right ones, and
each is referred to once. -/
theorem Schema.perm_of_select (hsame : sameColumns leftSchema.names rightSchema.names)
    (hreferred : rightSchema.referredAll? leftSchema.names = some referred)
    (hnodup : (rightSchema.select referred).names.Nodup)
    (hperm : leftSchema.Perm (rightSchema.select referred)) :
    leftSchema.Perm rightSchema ∧ leftSchema.names.Perm referred := by
  have hselect : (rightSchema.select referred).names = referred :=
    names_select (mem_names_of_referredAll? hreferred (mem_of_sameColumns hsame))
  have hnames : leftSchema.names.Perm referred := by
    have hnames : leftSchema.names.Perm (rightSchema.select referred).names :=
      hperm.map Column.name
    rwa [hselect] at hnames
  rw [hselect] at hnodup
  have hright := perm_of_sameColumns hsame (hnames.nodup_iff.2 hnodup)
  have hback := select_perm (hright.nodup_iff.1 (hnames.nodup_iff.2 hnodup))
    (hnames.symm.trans hright)
  exact ⟨hperm.trans hback, hnames⟩

namespace Plan

/-- The right operand of a set operator with its columns in the order of the left one: it has the
same tuples. -/
theorem Shows.aligned (h : right.Shows s) (hright : right.schema = .ok rightSchema)
    (hcomparable : right.comparable) (hnodup : names.Nodup)
    (hsame : ∀ name, name ∈ rightSchema.names ↔ name ∈ names)
    (hnames : rightSchema.referredAll? names = some names) :
    (select names right).frame.Typed ∧ (select names right).frame.schema.names = names ∧
      (select names right).frame.relation.tuples = s.tuples := by
  obtain ⟨hclean, hrelation⟩ := h rightSchema hright hcomparable
  have hschema := frame_schema_eq hright
  have hframe : (select names right).frame = right.frame.select names := by
    rw [Plan.frame, hschema, hnames, Option.getD_some]
  have hmem : ∀ name ∈ names, name ∈ right.frame.schema.names := fun name hname =>
    hschema ▸ (hsame name).2 hname
  have hnone : names = [] → right.frame.rows = [] := by
    rintro rfl
    refine hclean.rows_eq_nil (List.eq_nil_iff_forall_not_mem.2 fun column hcolumn => ?_)
    have hname : column.name ∈ rightSchema.names :=
      Schema.mem_names_iff.2 ⟨column, hschema ▸ hcolumn, rfl⟩
    cases (hsame _).1 hname
  rw [hframe, Frame.relation_select hmem hnone, hrelation.symm]
  refine ⟨hclean.toTyped.select hnodup hmem, Schema.names_select hmem, ?_⟩
  exact hclean.toTyped.tuples_project fun name hname => (hsame name).1 (hschema ▸ hname)

/-- Where columns can be matched, the right operand has the columns of the left one. -/
theorem Shows.matched (hl : left.Shows r) (hr : right.Shows s)
    (hleft : left.schema = .ok leftSchema) (hright : right.schema = .ok rightSchema)
    (hcolumns : sameColumns leftSchema.names rightSchema.names)
    (hschema : (semiJoin leftSchema.names left (select leftSchema.names right)).schema = .ok schema)
    (hcomparable : left.comparable ∧ right.comparable) :
    left.frame.Clean ∧ left.frame.relation = r ∧ (select leftSchema.names right).frame.Typed ∧
      (∀ name, name ∈ (select leftSchema.names right).frame.schema.names ↔
        name ∈ left.frame.schema.names) ∧
      (select leftSchema.names right).frame.relation.tuples = s.tuples := by
  obtain ⟨hclean, hrelation⟩ := hl _ hleft hcomparable.1
  have hframe := frame_schema_eq hleft
  have hnodup : leftSchema.names.Nodup := hframe ▸ hclean.names_nodup
  obtain ⟨alignedSchema, -, -, hmatch⟩ := schema_semiJoin_eq_ok_iff.1 hschema
  obtain ⟨htyped, hnames, htuples⟩ := hr.aligned hright hcomparable.2 hnodup
    (mem_iff_of_sameColumns hcolumns hnodup)
    (Schema.referredAll?_eq (isWildcard_of_checkMatch hmatch))
  exact ⟨hclean, hrelation, htyped, fun name => by rw [hnames, hframe], htuples⟩

/-- The plan of a set operator shows what the operator makes of two relations. -/
theorem Shows.setPlan (hl : left.Shows r) (hr : right.Shows s)
    (hleft : left.schema = .ok leftSchema) (hright : right.schema = .ok rightSchema)
    (hcolumns : sameColumns leftSchema.names rightSchema.names)
    (h : SetPlan leftSchema.names left right op plan) :
    ∃ t, Relation.setOp? op r s = some t ∧ plan.Shows t := by
  have hframe := frame_schema_eq hleft
  cases h with
  | union =>
      refine ⟨_, rfl, fun schema hschema hcomparable => ?_⟩
      simp only [comparable, Bool.and_eq_true] at hcomparable
      obtain ⟨hclean, hrelation⟩ := hl _ hleft hcomparable.1
      obtain ⟨hrightClean, hrightRelation⟩ := hr _ hright hcomparable.2
      have hrightFrame := frame_schema_eq hright
      obtain ⟨hleftSchema, aligned, haligned, hperm⟩ := schema_append_eq_ok_iff.1 hschema
      cases hleft.symm.trans hleftSchema
      obtain ⟨inner, referred, hinner, hreferred, hnodup, rfl⟩ :=
        schema_select_eq_ok_iff.1 haligned
      cases hright.symm.trans hinner
      have hmem : ∀ name ∈ referred, name ∈ rightSchema.names :=
        Schema.mem_names_of_referredAll? hreferred (mem_of_sameColumns hcolumns)
      obtain ⟨hschemas, hnames⟩ := Schema.perm_of_select hcolumns hreferred hnodup hperm
      rw [← hframe, ← hrightFrame] at hschemas
      -- The columns that are referred to are lined up, whatever order they are in.
      have hrows : (append left (select leftSchema.names right)).frame =
          left.frame.append right.frame := by
        rw [Plan.frame, Plan.frame, hrightFrame, hreferred, Option.getD_some]
        exact Frame.append_select (fun _ hname => hnames.mem_iff.1 (hframe ▸ hname))
          (hrightFrame ▸ hmem)
      have happend := hclean.toTyped.append hrightClean.toTyped hschemas
      rw [Plan.frame, hrows]
      refine ⟨happend.distinct, happend.relation_distinct.trans ?_⟩
      rw [Frame.relation_append hclean.toTyped hrightClean.toTyped hschemas, hrelation,
        hrightRelation]
  | intersect =>
      refine ⟨_, rfl, fun schema hschema hcomparable => ?_⟩
      simp only [comparable, Bool.and_eq_true] at hcomparable
      obtain ⟨hclean, hrelation, htyped, hsame, htuples⟩ :=
        hl.matched hr hleft hright hcolumns hschema hcomparable
      have hrows := hclean.toTyped.relation_semiJoin htyped hsame
      rw [hframe] at hrows
      have hsemi : (semiJoin leftSchema.names left (select leftSchema.names right)).frame.Clean :=
        hclean.filter _
      refine ⟨hsemi.toTyped.distinct, hsemi.toTyped.relation_distinct.trans ?_⟩
      rw [Plan.frame, hrows, hrelation, Relation.intersect, htuples, Relation.intersect]
  | difference =>
      refine ⟨_, rfl, fun schema hschema hcomparable => ?_⟩
      simp only [comparable, Bool.and_eq_true] at hcomparable
      obtain ⟨hclean, hrelation, htyped, hsame, htuples⟩ :=
        hl.matched hr hleft hright hcolumns hschema hcomparable
      have hrows := hclean.toTyped.relation_antiJoin htyped hsame
      rw [hframe] at hrows
      have hanti : (antiJoin leftSchema.names left (select leftSchema.names right)).frame.Clean :=
        hclean.filter _
      refine ⟨hanti.toTyped.distinct, hanti.toTyped.relation_distinct.trans ?_⟩
      rw [Plan.frame, hrows, hrelation, Relation.difference, htuples, Relation.difference]

/-! ## Joins -/

/-- Combining all rows shows the product. -/
theorem Shows.product (hl : left.Shows r) (hr : right.Shows s) :
    (product left right).Shows (r.product s) := by
  intro schema hschema hcomparable
  obtain ⟨leftSchema, rightSchema, hleft, hright, hnodup, rfl⟩ := schema_product_eq_ok_iff.1 hschema
  simp only [comparable, Bool.and_eq_true] at hcomparable
  obtain ⟨hcleanl, hrelationl⟩ := hl _ hleft hcomparable.1
  obtain ⟨hcleanr, hrelationr⟩ := hr _ hright hcomparable.2
  rw [← frame_schema_eq hleft, ← frame_schema_eq hright] at hnodup
  refine ⟨hcleanl.product hcleanr hnodup, ?_⟩
  rw [Plan.frame, hcleanl.relation_product hcleanr.toTyped hnodup, hrelationl, hrelationr]

/-- Columns that both operands have are matched. -/
theorem Shows.innerJoin (hl : left.Shows r) (hr : right.Shows s)
    (hleft : left.schema = .ok leftSchema) (hright : right.schema = .ok rightSchema)
    (hnames : ∀ name, name ∈ names ↔ name ∈ leftSchema.names ∧ name ∈ rightSchema.names) :
    (innerJoin names left right).Shows (r.naturalJoin s) := by
  intro schema hschema hcomparable
  obtain ⟨_, _, hleft', hright', -, hnodup, rfl⟩ := schema_innerJoin_eq_ok_iff.1 hschema
  cases hleft.symm.trans hleft'
  cases hright.symm.trans hright'
  simp only [comparable, Bool.and_eq_true] at hcomparable
  obtain ⟨hcleanl, hrelationl⟩ := hl _ hleft hcomparable.1
  obtain ⟨hcleanr, hrelationr⟩ := hr _ hright hcomparable.2
  rw [← frame_schema_eq hleft, ← frame_schema_eq hright] at hnodup hnames
  refine ⟨hcleanl.innerJoin hcleanr hnames hnodup, ?_⟩
  rw [Plan.frame, hcleanl.relation_innerJoin hnames, hrelationl, hrelationr]

/-- The plan of a join shows what the join makes of two relations. -/
theorem Shows.joinPlan (hl : left.Shows r) (hr : right.Shows s) (h : JoinPlan left right op plan) :
    ∃ t, Relation.join? op r s = some t ∧ plan.Shows t := by
  cases h with
  | naturalJoin hleft hright hcommon =>
      refine ⟨_, rfl, hl.innerJoin hr hleft hright fun name => ?_⟩
      simp [List.mem_filter]
  | @disjoint leftSchema rightSchema hleft hright hcommon =>
      refine ⟨_, rfl, fun schema hschema hcomparable => ?_⟩
      have hboth := hcomparable
      simp only [comparable, Bool.and_eq_true] at hboth
      have hcolumns (name : Text) (hname : name ∈ s.columns) : name ∉ r.columns := by
        rw [hl.columns_eq hleft hboth.1]
        rw [hr.columns_eq hright hboth.2] at hname
        simpa [hname] using List.filter_eq_nil_iff.1 hcommon name
      rw [Relation.naturalJoin_eq_product hcolumns]
      exact hl.product hr schema hschema hcomparable
  | cartesian => exact ⟨_, rfl, hl.product hr⟩
  | thetaJoin => exact ⟨_, rfl, hl.product hr⟩

end Plan

end RelQuery
