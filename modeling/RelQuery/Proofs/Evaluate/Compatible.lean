import RelQuery.Proofs.Evaluate.SetRows

/-!
# Operands with the same columns

A set operator asks that its operands have columns of the same names, and compares these from one
side only. That is enough: no name is repeated among the columns of a plan (`nodup_of_resolve`), and
lists without repetitions that are compared like this are in some order the same
(`sameColumns_iff_perm`). So operands are refused for their columns in one order exactly if they are
in the other (`incompatible_swap`).

To bring the columns of the right operand into the order of the left one, they are selected by their
names. A name that is a wildcard may select other columns or none, and whether there is each column
once is a matter of what the names refer to (`Plan.exists_select_perm_iff`).
-/

namespace RelQuery

/-- The expression cannot be evaluated since a set operator in it has operands over different
columns. -/
def Incompatible (catalog : Catalog) (e : Expr) : Prop :=
  ∃ op left right, evaluate catalog e = .error (.incompatibleSchemas op left right)

variable {catalog : Catalog} {e lhs rhs : Expr} {op other : Operator} {source : Text}
variable {plan input left right : Plan} {schema : Schema} {first second : Frame}
variable {columns others names leftNames rightNames : List Text}

/-! ## Names of columns -/

/-- Columns without repetitions are the same as others if those are the same in another order. -/
theorem sameColumns_iff_perm (hnodup : columns.Nodup) :
    sameColumns columns others ↔ columns.Perm others :=
  ⟨fun h => perm_of_sameColumns h hnodup, sameColumns_of_perm⟩

/-- Then it does not matter on which side which are. -/
theorem sameColumns_comm (hcolumns : columns.Nodup) (hothers : others.Nodup) :
    sameColumns columns others ↔ sameColumns others columns := by
  rw [sameColumns_iff_perm hcolumns, sameColumns_iff_perm hothers]
  exact List.perm_comm

/-- Columns that are the same as the same columns are the same. -/
theorem sameColumns_trans (hcolumns : columns.Nodup) (hothers : others.Nodup)
    (h : sameColumns columns others) (h' : sameColumns others names) : sameColumns columns names :=
  sameColumns_of_perm ((perm_of_sameColumns h hcolumns).trans (perm_of_sameColumns h' hothers))

/-! ## No name is repeated among the columns of a plan -/

/-- A set operation has the columns of its left operand. -/
theorem SetPlan.schema_eq (h : SetPlan names left right op plan)
    (hschema : plan.schema = .ok schema) : left.schema = .ok schema := by
  cases h with
  | union => exact (Plan.schema_append_eq_ok_iff.1 hschema).1
  | intersect =>
      obtain ⟨-, hleft, -⟩ := Plan.schema_semiJoin_eq_ok_iff.1 hschema
      exact hleft
  | difference =>
      obtain ⟨-, hleft, -⟩ := Plan.schema_semiJoin_eq_ok_iff.1 hschema
      exact hleft

/-- Joins are checked for repeated names whatever their operands are. -/
theorem JoinPlan.nodup (h : JoinPlan left right op plan) (hschema : plan.schema = .ok schema) :
    schema.names.Nodup := by
  have hproduct (h : (Plan.product left right).schema = .ok schema) : schema.names.Nodup := by
    obtain ⟨_, _, -, -, hnodup, rfl⟩ := Plan.schema_product_eq_ok_iff.1 h
    exact hnodup
  cases h with
  | naturalJoin =>
      obtain ⟨_, _, -, -, -, hnodup, rfl⟩ := Plan.schema_innerJoin_eq_ok_iff.1 hschema
      exact hnodup
  | disjoint => exact hproduct hschema
  | cartesian => exact hproduct hschema
  | thetaJoin => exact hproduct hschema

/-- No plan over rectangular relations has two columns of one name. -/
theorem nodup_of_resolve (hcatalog : catalog.Rectangular) (h : resolve catalog e = .ok plan)
    (hschema : plan.schema = .ok schema) : schema.names.Nodup := by
  induction e generalizing plan schema with
  | relation name source =>
      obtain ⟨frame, hframe, rfl⟩ := resolve_relation_eq_ok_iff.1 h
      cases hschema
      exact (hcatalog name frame hframe).names_nodup
  | unary op condition operand source ih =>
      obtain ⟨input, hinput, hplan⟩ := resolve_unary_eq_ok_iff.1 h
      cases op with
      | select =>
          obtain ⟨_, predicate, -, -, rfl⟩ := planSelection_eq_ok_iff.1 hplan
          exact ih hinput hschema
      | project =>
          obtain ⟨_, names, -, -, -, rfl⟩ := planProjection_eq_ok_iff.1 hplan
          obtain ⟨_, referred, -, -, hnodup, rfl⟩ := Plan.schema_select_eq_ok_iff.1 hschema
          exact hnodup
      | _ => cases hplan
  | setOp op lhs rhs source ihl ihr =>
      obtain ⟨left, hleft, right, -, hplan⟩ := resolve_setOp_eq_ok_iff.1 h
      obtain ⟨_, _, -, -, -, hset⟩ := planSet_eq_ok hplan
      exact ihl hleft (hset.schema_eq hschema)
  | join op lhs rhs source ihl ihr =>
      obtain ⟨left, -, right, -, hplan⟩ := resolve_join_eq_ok_iff.1 h
      exact (planJoin_eq_ok hplan).nodup hschema
  | conditionalJoin op condition lhs rhs source ihl ihr =>
      obtain ⟨left, -, right, -, joined, hplan, hselection⟩ :=
        resolve_conditionalJoin_eq_ok_iff.1 h
      obtain ⟨_, predicate, -, -, rfl⟩ := planSelection_eq_ok_iff.1 hselection
      exact (planJoin_eq_ok hplan).nodup hschema

/-- So there are no two in the names of its columns. -/
theorem nodup_of_columnNames (hcatalog : catalog.Rectangular) (h : resolve catalog e = .ok plan)
    (hnames : columnNames plan = .ok names) : names.Nodup := by
  obtain ⟨schema, hschema, rfl⟩ := columnNames_eq_ok_iff.1 hnames
  exact nodup_of_resolve hcatalog h hschema

/-! ## Operands that are refused -/

/-- Asking for the names of columns compares no columns. -/
theorem columnNames_ne_incompatible :
    columnNames input ≠ .error (.incompatibleSchemas op leftNames rightNames) := by
  intro h
  obtain ⟨fault, -, hfault⟩ := mapError_eq_error_iff.1 h
  cases hfault

/-- A set operator refuses the columns of its operands if the names are not the same. -/
theorem planSet_incompatible_iff :
    planSet op left right = .error (.incompatibleSchemas other leftNames rightNames) ↔
      other = op ∧ op.category = .set ∧ columnNames left = .ok leftNames ∧
        columnNames right = .ok rightNames ∧ ¬ sameColumns leftNames rightNames := by
  constructor
  · intro h
    unfold planSet at h
    split at h
    · rename_i hop
      simp only [bind_eq_error_iff, columnNames_ne_incompatible, false_or] at h
      obtain ⟨_, hleft, _, hright, h⟩ := h
      split at h
      · cases op <;> cases h
      · rename_i hsame
        cases h
        exact ⟨rfl, hop, hleft, hright, hsame⟩
    · cases h
  · intro h
    obtain ⟨rfl, hop, hleft, hright, hsame⟩ := h
    simp [planSet, hop, hleft, hright, hsame, bind, Except.bind]

/-- Only planning refuses columns. -/
theorem evaluate_incompatible_iff :
    evaluate catalog e = .error (.incompatibleSchemas op leftNames rightNames) ↔
      resolve catalog e = .error (.incompatibleSchemas op leftNames rightNames) := by
  unfold evaluate
  rw [bind_eq_error_iff]
  refine or_iff_left ?_
  intro h
  obtain ⟨plan, -, hcollect⟩ := h
  obtain ⟨fault, -, hfault⟩ := mapError_eq_error_iff.1 hcollect
  cases hfault

/-- A set operation fails for its columns if its operands do not and theirs are not the same. -/
theorem evaluate_setOp_incompatible_iff (hlhs : ¬ Incompatible catalog lhs)
    (hrhs : ¬ Incompatible catalog rhs) :
    evaluate catalog (.setOp op lhs rhs source) =
        .error (.incompatibleSchemas other leftNames rightNames) ↔
      ∃ left right, resolve catalog lhs = .ok left ∧ resolve catalog rhs = .ok right ∧
        planSet op left right = .error (.incompatibleSchemas other leftNames rightNames) := by
  have hleft : resolve catalog lhs ≠ .error (.incompatibleSchemas other leftNames rightNames) :=
    fun h => hlhs ⟨_, _, _, evaluate_incompatible_iff.2 h⟩
  have hright : resolve catalog rhs ≠ .error (.incompatibleSchemas other leftNames rightNames) :=
    fun h => hrhs ⟨_, _, _, evaluate_incompatible_iff.2 h⟩
  rw [evaluate_incompatible_iff, resolve]
  simp only [bind_eq_error_iff, hleft, hright, false_or]
  constructor
  · intro h
    obtain ⟨left, hl, right, hr, hplan⟩ := h
    exact ⟨left, right, hl, hr, hplan⟩
  · intro h
    obtain ⟨left, right, hl, hr, hplan⟩ := h
    exact ⟨left, hl, right, hr, hplan⟩

/-- Operands are refused in one order if they are in the other, with their columns exchanged. -/
theorem incompatible_swap {back : Text} (hcatalog : catalog.Rectangular)
    (hlhs : ¬ Incompatible catalog lhs) (hrhs : ¬ Incompatible catalog rhs)
    (h : evaluate catalog (.setOp op lhs rhs source) =
      .error (.incompatibleSchemas other leftNames rightNames)) :
    evaluate catalog (.setOp op rhs lhs back) =
      .error (.incompatibleSchemas other rightNames leftNames) := by
  obtain ⟨left, right, hleft, hright, hplan⟩ := (evaluate_setOp_incompatible_iff hlhs hrhs).1 h
  obtain ⟨rfl, hop, hleftNames, hrightNames, hsame⟩ := planSet_incompatible_iff.1 hplan
  have hleftNodup := nodup_of_columnNames hcatalog hleft hleftNames
  have hrightNodup := nodup_of_columnNames hcatalog hright hrightNames
  have hother : ¬ sameColumns rightNames leftNames :=
    mt (sameColumns_comm hrightNodup hleftNodup).1 hsame
  exact (evaluate_setOp_incompatible_iff hrhs hlhs).2 ⟨right, left, hright, hleft,
    planSet_incompatible_iff.2 ⟨rfl, hop, hrightNames, hleftNames, hother⟩⟩

/-- Operands that are evaluated are refused exactly if the columns of the one are not those of the
other in some order. -/
theorem evaluate_incompatible_iff_perm (hcatalog : catalog.Rectangular)
    (hlhs : evaluate catalog lhs = .ok first) (hrhs : evaluate catalog rhs = .ok second)
    (hop : op.category = .set) :
    evaluate catalog (.setOp op lhs rhs source) =
        .error (.incompatibleSchemas op first.schema.names second.schema.names) ↔
      ¬ first.schema.names.Perm second.schema.names := by
  have hnot {e : Expr} {frame : Frame} (h : evaluate catalog e = .ok frame) :
      ¬ Incompatible catalog e := by
    intro hincompatible
    obtain ⟨_, _, _, herror⟩ := hincompatible
    cases h.symm.trans herror
  have hfirst := (evaluate_rectangular hcatalog hlhs).names_nodup
  rw [evaluate_setOp_incompatible_iff (hnot hlhs) (hnot hrhs), ← sameColumns_iff_perm hfirst]
  constructor
  · intro h
    obtain ⟨left, right, -, -, hplan⟩ := h
    exact (planSet_incompatible_iff.1 hplan).2.2.2.2
  · intro hsame
    obtain ⟨left, hleft, hl⟩ := evaluate_eq_ok_iff_collect.1 hlhs
    obtain ⟨right, hright, hr⟩ := evaluate_eq_ok_iff_collect.1 hrhs
    have hnames {plan : Plan} {frame : Frame} (h : plan.collect = .ok frame) :
        columnNames plan = .ok frame.schema.names :=
      columnNames_eq_ok_iff.2 ⟨_, Plan.schema_of_collect h, rfl⟩
    exact ⟨left, right, hleft, hright,
      planSet_incompatible_iff.2 ⟨rfl, hop, hnames hl, hnames hr, hsame⟩⟩

/-! ## Columns in another order -/

/-- Selecting some names of columns gives each column once exactly if together they refer to each
column once. -/
theorem Plan.exists_select_perm_iff (hinput : input.schema = .ok schema)
    (hnodup : schema.names.Nodup) (hmem : ∀ name ∈ names, name ∈ schema.names) :
    (∃ aligned, (select names input).schema = .ok aligned ∧ aligned.Perm schema) ↔
      ∃ referred, schema.referredAll? names = some referred ∧ referred.Perm schema.names := by
  have hselected {referred : List Text} (h : schema.referredAll? names = some referred) :
      (schema.select referred).names = referred :=
    Schema.names_select (Schema.mem_names_of_referredAll? h hmem)
  constructor
  · intro h
    obtain ⟨_, hschema, hperm⟩ := h
    obtain ⟨_, referred, hinner, hreferred, -, rfl⟩ := schema_select_eq_ok_iff.1 hschema
    cases hinput.symm.trans hinner
    have hnames : (schema.select referred).names.Perm schema.names := hperm.map Column.name
    rw [hselected hreferred] at hnames
    exact ⟨referred, hreferred, hnames⟩
  · intro h
    obtain ⟨referred, hreferred, hperm⟩ := h
    have hdistinct : (schema.select referred).names.Nodup := by
      rw [hselected hreferred]
      exact hperm.nodup_iff.2 hnodup
    exact ⟨_, schema_select_eq_ok_iff.2 ⟨schema, referred, hinput, hreferred, hdistinct, rfl⟩,
      Schema.select_perm hnodup hperm⟩

/-- They do if none of them is a wildcard, and the columns then stand in the order of the names. -/
theorem Plan.schema_select_of_perm (hinput : input.schema = .ok schema)
    (hnodup : schema.names.Nodup) (hperm : names.Perm schema.names)
    (hnames : ∀ name ∈ names, Schema.isWildcard name = false) :
    (select names input).schema = .ok (schema.select names) ∧
      (schema.select names).names = names := by
  have hselected : (schema.select names).names = names :=
    Schema.names_select fun _ => hperm.mem_iff.1
  refine ⟨schema_select_eq_ok_iff.2 ⟨schema, names, hinput, Schema.referredAll?_eq hnames, ?_, rfl⟩,
    hselected⟩
  rw [hselected]
  exact hperm.nodup_iff.2 hnodup

/-! ## Operands of set operators -/

/-- Whether two lists of names without repetitions are compatible does not depend on their order nor
on which is the left one, and what is compatible with the same is compatible. Two operands are
refused for their columns exactly if they are when exchanged, and those that are evaluated exactly
if their columns are not the same in any order. Of compatible operands the columns of the right one
are selected by the names of the left one. That gives each column once exactly if together the names
refer to each column once, and it always does, in the order of the left operand, where none of them
is a wildcard. -/
theorem compatible_columns (hcatalog : catalog.Rectangular) (hlhs : ¬ Incompatible catalog lhs)
    (hrhs : ¬ Incompatible catalog rhs) (op : Operator) (source back : Text) :
    (∀ columns others : List Text, columns.Nodup → others.Nodup →
      (sameColumns columns others ↔ columns.Perm others) ∧
      (sameColumns columns others ↔ sameColumns others columns) ∧
      ∀ names, sameColumns columns others → sameColumns others names →
        sameColumns columns names) ∧
    (∀ other leftNames rightNames,
      evaluate catalog (.setOp op lhs rhs source) =
          .error (.incompatibleSchemas other leftNames rightNames) ↔
        evaluate catalog (.setOp op rhs lhs back) =
          .error (.incompatibleSchemas other rightNames leftNames)) ∧
    (∀ first second, op.category = .set → evaluate catalog lhs = .ok first →
      evaluate catalog rhs = .ok second →
      (evaluate catalog (.setOp op lhs rhs source) =
          .error (.incompatibleSchemas op first.schema.names second.schema.names) ↔
        ¬ first.schema.names.Perm second.schema.names)) ∧
    ∀ left right leftSchema rightSchema, resolve catalog lhs = .ok left →
      resolve catalog rhs = .ok right → left.schema = .ok leftSchema →
      right.schema = .ok rightSchema → sameColumns leftSchema.names rightSchema.names →
      let aligned := (Plan.select leftSchema.names right).schema
      ((∃ schema, aligned = .ok schema ∧ schema.Perm rightSchema) ↔
        ∃ referred, rightSchema.referredAll? leftSchema.names = some referred ∧
          referred.Perm rightSchema.names) ∧
      (leftSchema.ByName →
        ∃ schema, aligned = .ok schema ∧ schema.names = leftSchema.names ∧
          schema.Perm rightSchema) := by
  refine ⟨?_, ?_, ?_, ?_⟩
  · intro columns others hcolumns hothers
    exact ⟨sameColumns_iff_perm hcolumns, sameColumns_comm hcolumns hothers,
      fun names => sameColumns_trans hcolumns hothers⟩
  · intro other leftNames rightNames
    exact ⟨incompatible_swap hcatalog hlhs hrhs, incompatible_swap hcatalog hrhs hlhs⟩
  · intro first second hop hfirst hsecond
    exact evaluate_incompatible_iff_perm hcatalog hfirst hsecond hop
  · intro left right leftSchema rightSchema hleft hright hleftSchema hrightSchema hsame aligned
    have hnodup := nodup_of_resolve hcatalog hright hrightSchema
    have hperm := perm_of_sameColumns hsame (nodup_of_resolve hcatalog hleft hleftSchema)
    refine ⟨Plan.exists_select_perm_iff hrightSchema hnodup fun _ => hperm.mem_iff.1, ?_⟩
    intro hnames
    obtain ⟨hschema, hselected⟩ := Plan.schema_select_of_perm hrightSchema hnodup hperm hnames
    exact ⟨_, hschema, hselected, Schema.select_perm hnodup hperm⟩

/-- Two relations with the same columns in different orders, and one with others. -/
theorem compatible_columns_permuted :
    let table : Frame := ⟨[⟨['A'], .int64⟩, ⟨['B'], .text⟩], [[.int 1, .text ['x']]]⟩
    let permuted : Frame := ⟨[⟨['B'], .text⟩, ⟨['A'], .int64⟩], [[.text ['y'], .int 2]]⟩
    let wider : Frame := ⟨[⟨['A'], .int64⟩, ⟨['B'], .text⟩, ⟨['C'], .boolean⟩], []⟩
    let catalog : Catalog := ⟨[(['R'], table), (['S'], permuted), (['T'], wider)]⟩
    let r : Expr := .named ['R']
    let s : Expr := .named ['S']
    let t : Expr := .named ['T']
    catalog.Rectangular ∧ ¬ Incompatible catalog r ∧ ¬ Incompatible catalog s ∧
      ¬ Incompatible catalog t ∧
      sameColumns table.schema.names permuted.schema.names ∧
      sameColumns permuted.schema.names table.schema.names ∧
      evaluate catalog (.setOp .difference r t []) =
        .error (.incompatibleSchemas .difference table.schema.names wider.schema.names) ∧
      evaluate catalog (.setOp .difference t r []) =
        .error (.incompatibleSchemas .difference wider.schema.names table.schema.names) ∧
      ∃ schema, (Plan.select table.schema.names (.scan permuted)).schema = .ok schema ∧
        schema.names = table.schema.names ∧ schema.Perm permuted.schema := by
  intro table permuted wider catalog r s t
  have hcatalog : catalog.Rectangular := fun _ _ => Catalog.forall_of_get?
    (List.forall_mem_cons.2 ⟨⟨by decide, by decide⟩,
      List.forall_mem_cons.2 ⟨⟨by decide, by decide⟩,
        List.forall_mem_singleton.2 ⟨by decide, by decide⟩⟩⟩)
  have hr : ¬ Incompatible catalog r := nofun
  have hs : ¬ Incompatible catalog s := nofun
  have ht : ¬ Incompatible catalog t := nofun
  obtain ⟨hnames, -, -, hselect⟩ := compatible_columns hcatalog hr hs .union [] []
  obtain ⟨hperm, hcomm, -⟩ :=
    hnames table.schema.names permuted.schema.names (by decide) (by decide)
  have hsame := hperm.2 (by decide)
  obtain ⟨-, hswap, hrefused, -⟩ := compatible_columns hcatalog hr ht .difference [] []
  have hdifference := (hrefused table wider rfl rfl rfl).2 (by decide)
  exact ⟨hcatalog, hr, hs, ht, hsame, hcomm.1 hsame, hdifference, (hswap _ _ _).1 hdifference,
    (hselect _ _ _ _ rfl rfl rfl rfl hsame).2 (by decide)⟩

/-- A column that has the name of a regular expression is not selected by this name. Another one
that the expression is found in is selected twice. -/
theorem not_compatible_columns :
    ¬ ∀ (catalog : Catalog) (lhs rhs : Expr) (left right : Plan) (leftSchema rightSchema : Schema),
      catalog.Rectangular → resolve catalog lhs = .ok left → resolve catalog rhs = .ok right →
      left.schema = .ok leftSchema → right.schema = .ok rightSchema →
      sameColumns leftSchema.names rightSchema.names →
      ∃ schema, (Plan.select leftSchema.names right).schema = .ok schema ∧
        schema.Perm rightSchema := by
  intro h
  let table : Frame := ⟨[⟨"^A$".toList, .int64⟩, ⟨['A'], .int64⟩],
    [[.int 1, .int 3], [.int 2, .int 4]]⟩
  let catalog : Catalog := ⟨[(['R'], table)]⟩
  have hcatalog : catalog.Rectangular := fun _ _ => Catalog.forall_of_get?
    (List.forall_mem_singleton.2 ⟨by decide, by decide⟩)
  have hselect :
      (Plan.select table.schema.names (.scan table)).schema = .error .repeatedColumn := by
    decide +kernel
  obtain ⟨schema, hschema, -⟩ := h catalog (.named ['R']) (.named ['R']) (.scan table) (.scan table)
    table.schema table.schema hcatalog rfl rfl rfl rfl (by decide)
  cases hselect.symm.trans hschema

end RelQuery
