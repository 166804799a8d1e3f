import RelQuery.Proofs.Expr.Change
import RelQuery.Proofs.Syntax.Step
import Mathlib.Data.List.Induction

/-!
# Two runs side by side

Two runs of the machine over texts that differ in one place. States are `Alike` if they expect the
same, keep operands of the same shape and height and both keep a condition or none; whether a step
may be taken depends on nothing else (`Step.alike`). `State.conditions` lists the conditions in what
is kept, and an operand appends its own, so a change in one place stays a change in one place
(`Reached.replace`). States with the `SameParts` have the same conditions too.
-/

namespace RelQuery.Syntax

/-- What two runs have in common of an operand. -/
def Operand.outline (operand : Operand) : Expr × Nat :=
  (operand.expr.shape, operand.height)

/-- The conditions in what the reader keeps, the one that no node has taken yet first. -/
def State.conditions (s : State) : List Text :=
  (Expr.presentCondition s.condition).toList ++
    s.lhs.toList.flatMap fun operand => operand.expr.conditions

/-- The states expect the same and keep the same, but for conditions and sources. -/
structure State.Alike (s t : State) : Prop where
  mode_eq : t.mode = s.mode
  op_eq : t.op = s.op
  lhs_eq : t.lhs.map Operand.outline = s.lhs.map Operand.outline
  present_eq :
    (Expr.presentCondition t.condition).isSome = (Expr.presentCondition s.condition).isSome

/-- The states expect the same and keep the same, but for sources. -/
structure State.SameParts (s t : State) : Prop extends State.Alike s t where
  conditions_eq : t.conditions = s.conditions

variable {settings : Settings} {groups : Nat} {text text' : Text} {r s s' t : State}
variable {token token' : Token} {operand operand' root : Operand} {c c' : Text}
variable {before after middle middle' : List Token}

/-- A state is like itself. -/
theorem State.Alike.refl (s : State) : s.Alike s :=
  ⟨rfl, rfl, rfl, rfl⟩

namespace State.SameParts

/-- A state has the same parts as itself. -/
theorem refl (s : State) : s.SameParts s :=
  ⟨.refl s, rfl⟩

/-- Which of the two comes first does not matter. -/
theorem symm (h : s.SameParts t) : t.SameParts s where
  mode_eq := h.mode_eq.symm
  op_eq := h.op_eq.symm
  lhs_eq := h.lhs_eq.symm
  present_eq := h.present_eq.symm
  conditions_eq := h.conditions_eq.symm

/-- States with the same parts as a third one have the same parts. -/
theorem trans (h : r.SameParts s) (h' : s.SameParts t) : r.SameParts t where
  mode_eq := h'.mode_eq.trans h.mode_eq
  op_eq := h'.op_eq.trans h.op_eq
  lhs_eq := h'.lhs_eq.trans h.lhs_eq
  present_eq := h'.present_eq.trans h.present_eq
  conditions_eq := h'.conditions_eq.trans h.conditions_eq

/-- Going past a token changes no part. -/
theorem advance (s : State) (token : Token) : s.SameParts (s.advance token) :=
  ⟨⟨rfl, rfl, rfl, rfl⟩, rfl⟩

end State.SameParts

/-- States that are alike keep equally many conditions that no node has taken yet. -/
theorem State.Alike.length_present (h : s.Alike t) :
    (Expr.presentCondition t.condition).toList.length =
      (Expr.presentCondition s.condition).toList.length := by
  have := h.present_eq
  cases hs : Expr.presentCondition s.condition <;> cases ht : Expr.presentCondition t.condition <;>
    simp_all

/-- If one state has no left operand the other has none. -/
theorem State.Alike.lhs_eq_none (h : s.Alike t) (hs : s.lhs = none) : t.lhs = none := by
  simpa [hs] using h.lhs_eq

/-- If one has a left operand the other has one of the same shape and height. -/
theorem State.Alike.lhs_eq_some {lhs : Operand} (h : s.Alike t) (hs : s.lhs = some lhs) :
    ∃ lhs', t.lhs = some lhs' ∧ lhs'.expr.shape = lhs.expr.shape ∧ lhs'.height = lhs.height := by
  have hmap := h.lhs_eq
  rw [hs, Option.map_some, Option.map_eq_some_iff] at hmap
  obtain ⟨lhs', hlhs', houtline⟩ := hmap
  obtain ⟨hshape, hheight⟩ := Prod.mk.inj houtline
  exact ⟨lhs', hlhs', hshape, hheight⟩

/-! ## One step -/

/-- A condition with something in it comes first. -/
theorem State.conditions_withCondition (hc : c ≠ []) :
    (s.withCondition c).conditions =
      c :: s.lhs.toList.flatMap fun operand => operand.expr.conditions := by
  cases c with
  | nil => exact absurd rfl hc
  | cons first c => rfl

/-- A condition is put in the place of the one that no node has taken yet. -/
theorem State.Alike.withCondition (h : s.Alike t) (body : Text) (token token' : Token) :
    ((s.advance token).withCondition body).Alike ((t.advance token').withCondition body) :=
  ⟨h.mode_eq, h.op_eq, h.lhs_eq, rfl⟩

/-- A token is read as one operand at most. -/
theorem ReadsOperand.unique (h : ReadsOperand settings groups token operand)
    (h' : ReadsOperand settings groups token operand') : operand' = operand := by
  cases h with
  | name =>
      cases h'
      rfl
  | group _ hread =>
      cases h' with
      | group _ hread' =>
          rw [hread] at hread'
          cases hread'
          rfl

/-- A step that reads an operand can be taken with any operand of the same outline in any state that
is alike, and the operand's conditions come behind those that are kept. -/
theorem Step.operand_alike (h : Step settings groups text s token s') (hs : s.BetweenTokens)
    (halike : s.Alike t) (hread : ReadsOperand settings groups token operand)
    (hread' : ReadsOperand settings groups token' operand')
    (hshape : operand'.expr.shape = operand.expr.shape)
    (hheight : operand'.height = operand.height) (text' : Text) :
    ∃ t', Step settings groups text' t token' t' ∧ s'.Alike t' ∧
      s'.conditions = s.conditions ++ operand.expr.conditions ∧
      t'.conditions = t.conditions ++ operand'.expr.conditions := by
  cases h with
  | blank c => cases hread
  | condition body => cases hread
  | operator op hmode => cases hread
  | left hmode hread₀ hop hlhs =>
      cases hread.unique hread₀
      have hlhs' := halike.lhs_eq_none hlhs
      rw [← halike.mode_eq] at hmode
      rw [← halike.op_eq] at hop
      refine ⟨_, .left t hmode hread' hop hlhs', ⟨rfl, halike.op_eq, ?_, halike.present_eq⟩, ?_, ?_⟩
      · simp [Operand.outline, hshape, hheight]
      · simp [State.conditions, hlhs]
      · simp [State.conditions, hlhs']
  | @unary _ _ op node hmode hread₀ hop hunary hle hnode =>
      cases hread.unique hread₀
      obtain ⟨op₀, hop₀, hlhs⟩ := hs.operand hmode
      cases hop.symm.trans hop₀
      have hlhs' := halike.lhs_eq_none (hlhs hunary)
      rw [← halike.mode_eq] at hmode
      rw [← halike.op_eq] at hop
      rw [← hheight] at hle
      obtain ⟨node', hnode', hnodeShape⟩ := Expr.assemble_unary_alike hunary hnode hshape
        halike.present_eq (text'.take (t.advance token').position)
      refine ⟨_, .unary t hmode hread' hop hunary hle hnode', ⟨rfl, rfl, ?_, rfl⟩, ?_, ?_⟩
      · simp [Operand.outline, hnodeShape, hheight]
      · obtain ⟨condition, hcondition, rfl⟩ := Expr.assemble_unary hunary hnode
        simp [State.conditions, hlhs hunary, hcondition]
      · obtain ⟨condition, hcondition, rfl⟩ := Expr.assemble_unary hunary hnode'
        simp [State.conditions, hlhs', hcondition]
  | @binary _ lhs _ op node hmode hread₀ hop hbinary hlhs hle hnode =>
      cases hread.unique hread₀
      obtain ⟨lhs', hlhs', hlhsShape, hlhsHeight⟩ := halike.lhs_eq_some hlhs
      rw [← halike.mode_eq] at hmode
      rw [← halike.op_eq] at hop
      rw [← hheight, ← hlhsHeight] at hle
      obtain ⟨node', hnode', hnodeShape⟩ := Expr.assemble_binary_alike hbinary hnode hlhsShape
        hshape halike.present_eq (text'.take (t.advance token').position)
      refine ⟨_, .binary t hmode hread' hop hbinary hlhs' hle hnode', ⟨rfl, rfl, ?_, rfl⟩, ?_, ?_⟩
      · simp [Operand.outline, hnodeShape, hlhsHeight, hheight]
      · have hconditions := (Expr.assemble_binary hbinary hnode).conditions_eq
        simp [State.conditions, hlhs, hconditions]
      · have hconditions := (Expr.assemble_binary hbinary hnode').conditions_eq
        simp [State.conditions, hlhs', hconditions]

/-- The same token takes states that are alike to states that are alike. -/
theorem Step.alike (h : Step settings groups text s token s') (hs : s.BetweenTokens)
    (halike : s.Alike t) (hchange : OneChange c c' s.conditions t.conditions) (text' : Text) :
    ∃ t', Step settings groups text' t token t' ∧ s'.Alike t' ∧
      OneChange c c' s'.conditions t'.conditions := by
  have hoperand (operand : Operand) (hread : ReadsOperand settings groups token operand) :
      ∃ t', Step settings groups text' t token t' ∧ s'.Alike t' ∧
        OneChange c c' s'.conditions t'.conditions := by
    obtain ⟨t', hstep, halike', hconditions, hconditions'⟩ :=
      h.operand_alike hs halike hread hread rfl rfl text'
    refine ⟨t', hstep, halike', ?_⟩
    rw [hconditions, hconditions']
    exact hchange.append_right _
  cases h with
  | blank b =>
      have hadvance : (s.advance (.blank b)).Alike (t.advance (.blank b)) :=
        ⟨halike.mode_eq, halike.op_eq, halike.lhs_eq, halike.present_eq⟩
      exact ⟨_, .blank t b, hadvance, hchange⟩
  | condition body =>
      -- Both runs lose the condition that no node has taken, or neither has one.
      refine ⟨_, .condition t body, halike.withCondition body _ _, ?_⟩
      exact (hchange.of_append halike.length_present).append_left _
  | operator op hmode =>
      rw [← halike.mode_eq] at hmode
      exact ⟨_, .operator t op hmode, ⟨rfl, rfl, halike.lhs_eq, halike.present_eq⟩, hchange⟩
  | left _ hread _ _ => exact hoperand _ hread
  | unary _ hread _ _ _ _ => exact hoperand _ hread
  | binary _ hread _ _ _ _ _ => exact hoperand _ hread

/-- The same token keeps the parts the same. -/
theorem Step.sameParts (h : Step settings groups text s token s') (hs : s.BetweenTokens)
    (hsame : s.SameParts t) (text' : Text) :
    ∃ t', Step settings groups text' t token t' ∧ s'.SameParts t' := by
  have hchange : OneChange [] [] s.conditions t.conditions := .inl hsame.conditions_eq
  obtain ⟨t', hstep, halike, hchange'⟩ := h.alike hs hsame.toAlike hchange text'
  exact ⟨t', hstep, halike, hchange'.eq_of_self⟩

/-- The condition that a step puts in the place of another one may be changed. -/
theorem Step.condition_change (h : Step settings groups text s (.condition c) s')
    (hsame : s.SameParts t) (hc : c ≠ []) (hc' : c' ≠ []) (text' : Text) :
    ∃ t', Step settings groups text' t (.condition c') t' ∧ s'.Alike t' ∧
      OneChange c c' s'.conditions t'.conditions := by
  obtain ⟨-, hkept⟩ := List.append_inj hsame.conditions_eq hsame.length_present
  have hpresent (d : Text) (hd : d ≠ []) : Expr.presentCondition (some d) = some d :=
    Expr.presentCondition_of_ne_nil (by simpa using hd)
  have halike' : State.Alike ((s.advance (.condition c)).withCondition c)
      ((t.advance (.condition c')).withCondition c') :=
    ⟨hsame.mode_eq, hsame.op_eq, hsame.lhs_eq, by
      simp [State.withCondition, hpresent c hc, hpresent c' hc']⟩
  cases h with
  | condition =>
      refine ⟨_, .condition t c', halike', ?_⟩
      rw [State.conditions_withCondition hc, State.conditions_withCondition hc']
      refine .inr ⟨[], _, rfl, ?_⟩
      exact congrArg (c' :: ·) hkept
  | left _ hread _ _ => cases hread
  | unary _ hread _ _ _ _ => cases hread
  | binary _ hread _ _ _ _ _ => cases hread

/-- A group may be changed into one that is read as a tree with one condition changed. -/
theorem Step.group_change {body body' : Text}
    (h : Step settings (groups + 1) text s (.group body) s') (hs : s.BetweenTokens)
    (hsame : s.SameParts t)
    (hread : readNested settings groups body = .ok operand)
    (hread' : readNested settings groups body' = .ok operand')
    (hheight : operand'.height = operand.height)
    (hdiffers : operand.expr.DiffersAtMostAt c c' operand'.expr) (text' : Text) :
    ∃ t', Step settings (groups + 1) text' t (.group body') t' ∧ s'.Alike t' ∧
      OneChange c c' s'.conditions t'.conditions := by
  have hoperand : ReadsOperand settings (groups + 1) (.group body) operand.grouped :=
    .group (ne_nil_of_readNested hread) hread
  have hoperand' : ReadsOperand settings (groups + 1) (.group body') operand'.grouped :=
    .group (ne_nil_of_readNested hread') hread'
  have hshape : operand'.grouped.expr.shape = operand.grouped.expr.shape := by
    simpa [Operand.grouped] using hdiffers.shape_eq
  obtain ⟨t', hstep, halike', hconditions, hconditions'⟩ :=
    h.operand_alike hs hsame.toAlike hoperand hoperand' hshape hheight text'
  refine ⟨t', hstep, halike', ?_⟩
  rw [hconditions, hconditions', hsame.conditions_eq]
  refine OneChange.append_left ?_ _
  simpa [Operand.grouped] using hdiffers.conditions

/-! ## Runs -/

/-- A run over the same tokens keeps the same but for sources. -/
theorem Reached.sameParts (h : Reached settings groups text before s) (text' : Text) :
    ∃ t, Reached settings groups text' before t ∧ s.SameParts t := by
  induction h with
  | initial => exact ⟨{}, .initial, .refl _⟩
  | snoc hreached hstep ih =>
      obtain ⟨t, hreached', hsame⟩ := ih
      obtain ⟨t', hstep', hsame'⟩ := hstep.sameParts hreached.betweenTokens hsame text'
      exact ⟨t', hreached'.snoc hstep', hsame'⟩

/-- If some of the tokens are replaced by others that make one change, the whole run makes one. -/
theorem Reached.replace (h : Reached settings groups text (before ++ middle ++ after) s)
    (hmiddle : ∀ {s}, Reached settings groups text (before ++ middle) s →
      ∃ t, Reached settings groups text' (before ++ middle') t ∧ s.Alike t ∧
        OneChange c c' s.conditions t.conditions) :
    ∃ t, Reached settings groups text' (before ++ middle' ++ after) t ∧ s.Alike t ∧
      OneChange c c' s.conditions t.conditions := by
  induction after using List.reverseRecOn generalizing s with
  | nil =>
      rw [List.append_nil] at h ⊢
      exact hmiddle h
  | append_singleton after token ih =>
      rw [← List.append_assoc] at h ⊢
      obtain ⟨r, hreached, hstep⟩ := h.of_append_singleton
      obtain ⟨r', hreached', halike, hchange⟩ := ih hreached
      obtain ⟨t, hstep', halike', hchange'⟩ :=
        hstep.alike hreached.betweenTokens halike hchange text'
      exact ⟨t, hreached'.snoc hstep', halike', hchange'⟩

/-- What is read after the replacement differs in one condition at most. -/
theorem readNested_replace (h : readNested settings groups text = .ok root)
    (htoks : tokens text = before ++ middle ++ after)
    (htoks' : tokens text' = before ++ middle' ++ after)
    (hmiddle : ∀ {s}, Reached settings groups text (before ++ middle) s →
      ∃ t, Reached settings groups text' (before ++ middle') t ∧ s.Alike t ∧
        OneChange c c' s.conditions t.conditions) :
    ∃ root', readNested settings groups text' = .ok root' ∧ root'.height = root.height ∧
      root.expr.DiffersAtMostAt c c' root'.expr := by
  obtain ⟨s, hreached, hroot, hop, hpresent⟩ := readNested_eq_ok_iff.1 h
  rw [htoks] at hreached
  obtain ⟨t, hreached', halike, hchange⟩ := hreached.replace hmiddle
  obtain ⟨root', hroot', hshape, hheight⟩ := halike.lhs_eq_some hroot
  have hpresent' : Expr.presentCondition t.condition = none := by
    simpa [hpresent] using halike.present_eq
  rw [← htoks'] at hreached'
  refine ⟨root', readNested_eq_ok_iff.2 ⟨t, hreached', hroot', ?_, hpresent'⟩, hheight, hshape, ?_⟩
  · rw [halike.op_eq, hop]
  · simpa [State.conditions, hpresent, hpresent', hroot, hroot'] using hchange

/-- One token may be replaced by another whose step makes one change. -/
theorem readNested_change (h : readNested settings groups text = .ok root)
    (htoks : tokens text = before ++ token :: after)
    (htoks' : tokens text' = before ++ token' :: after)
    (hstep : ∀ {s s' t}, s.BetweenTokens → s.SameParts t →
      Step settings groups text s token s' → ∃ t', Step settings groups text' t token' t' ∧
        s'.Alike t' ∧ OneChange c c' s'.conditions t'.conditions) :
    ∃ root', readNested settings groups text' = .ok root' ∧ root'.height = root.height ∧
      root.expr.DiffersAtMostAt c c' root'.expr := by
  rw [List.append_cons] at htoks htoks'
  refine readNested_replace h htoks htoks' fun hreached => ?_
  obtain ⟨s, hbefore, hlast⟩ := hreached.of_append_singleton
  obtain ⟨t, hbefore', hsame⟩ := hbefore.sameParts text'
  obtain ⟨t', hlast', halike, hchange⟩ := hstep hbefore.betweenTokens hsame hlast
  exact ⟨t', hbefore'.snoc hlast', halike, hchange⟩

end RelQuery.Syntax
