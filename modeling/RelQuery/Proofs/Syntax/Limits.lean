import RelQuery.Proofs.Syntax.Turn

/-!
# The limits of the reader

How many groups may be open and how high a tree may be. A text is read twice under different
limits: the results are the same unless a limit is exceeded in one of the runs (`agree_readNested`).
No limit is exceeded if both are at least the length of the text (`not_exceeded_of_length_le`), and
a text that is accepted is accepted under other limits just if its parentheses, conditions left out,
nest no deeper than they allow and its tree is no higher (`read_limits`).
-/

namespace RelQuery.Syntax

/-- The cause says that a limit of the settings is exceeded. -/
def Settings.Exceeded (settings : Settings) (cause : Cause) : Prop :=
  cause = .nestedTooDeep settings.maxDepth ∨ cause = .treeTooHigh settings.maxTreeDepth

/-- Two results are the same, or a limit is exceeded in one of them. -/
inductive Agree (settings other : Settings) {α : Type} :
    (result result' : Except ReadError α) → Prop where
  | same (result : Except ReadError α) : Agree settings other result result
  | left {result' : Except ReadError α} {e : ReadError} (h : settings.Exceeded e.cause) :
      Agree settings other (.error e) result'
  | right {result : Except ReadError α} {e : ReadError} (h : other.Exceeded e.cause) :
      Agree settings other result (.error e)

/-- A relation by itself may be as high as it is, any other tree only as high as the settings
allow. -/
def Operand.Within (settings : Settings) (operand : Operand) : Prop :=
  operand.expr.isRelation ∨ operand.height ≤ settings.maxTreeDepth

/-- How high the tree is that the reader keeps, with the node of the operator that it keeps. -/
def State.height (s : State) : Nat :=
  s.op.toList.length + max s.leftHeight s.rightHeight

/-- The same settings but for the limits. -/
def Settings.limited (settings : Settings) (depth treeDepth : Nat) : Settings :=
  { settings with maxDepth := depth, maxTreeDepth := treeDepth }

variable {settings other : Settings} {groups groups' : Nat} {text : Text} {s s' : State}
variable {token : Token} {before rest toks : List Token} {root operand : Operand} {e : ReadError}

/-! ## Two runs under different limits -/

/-- Results that agree still do when the same follows them. -/
theorem Agree.bind {α β : Type} {result result' : Except ReadError α}
    {next next' : α → Except ReadError β} (h : Agree settings other result result')
    (hnext : ∀ a, Agree settings other (next a) (next' a)) :
    Agree settings other (result.bind next) (result'.bind next') := by
  cases h with
  | same result =>
      cases result with
      | error e => exact .same _
      | ok a => exact hnext a
  | left h => exact .left h
  | right h => exact .right h

/-- A result under one limit is the result under the other, unless that one is exceeded. -/
theorem Agree.of_ok {α : Type} {a : α} {result' : Except ReadError α}
    (h : Agree settings other (.ok a) result') :
    result' = .ok a ∨ ∃ e, result' = .error e ∧ other.Exceeded e.cause := by
  cases h with
  | same => exact .inl rfl
  | right h => exact .inr ⟨_, rfl, h⟩

/-- So is an error that is about no limit. -/
theorem Agree.of_error {α : Type} {result' : Except ReadError α}
    (h : Agree settings other (.error e) result') (hlimits : ¬ settings.Exceeded e.cause) :
    ∃ e', result' = .error e' ∧ (e' = e ∨ other.Exceeded e'.cause) := by
  cases h with
  | same => exact ⟨e, rfl, .inl rfl⟩
  | left h => exact absurd h hlimits
  | right h => exact ⟨_, rfl, .inr h⟩

/-- Which names are allowed depends on the relations that are known. -/
theorem allows_of_known_eq (hknown : other.known = settings.known) (name : Text) :
    other.allows name = settings.allows name := by
  rw [Settings.allows, Settings.allows, hknown]

/-- A group that may be opened is read and then taken as an operand. -/
theorem acceptGroup_eq_bind {read : Text → Except ReadError Operand} {body : Text}
    (hne : body ≠ []) :
    acceptGroup settings (some read) s body = (read body).bind fun operand =>
      .ok ((s.advance (.group body)).withOperand operand.grouped) := by
  rw [acceptGroup, if_neg (by simpa using hne)]
  cases read body with
  | error e => rfl
  | ok operand => rfl

/-- Groups agree if what is in them does: where only one reader may open them, a limit is exceeded.
-/
theorem agree_acceptGroup {body : Text}
    (hread : ∀ inner inner', groups = inner + 1 → groups' = inner' + 1 →
      Agree settings other (readNested settings inner body) (readNested other inner' body)) :
    Agree settings other (acceptGroup settings (groupReader settings groups) s body)
      (acceptGroup other (groupReader other groups') s body) := by
  by_cases hne : body = []
  · rw [hne]
    exact .same _
  have hempty : body.isEmpty = false := List.isEmpty_eq_false_iff.2 hne
  cases groups with
  | zero =>
      simp only [acceptGroup, hempty, groupReader]
      exact .left (.inl rfl)
  | succ inner =>
      cases groups' with
      | zero =>
          simp only [acceptGroup, hempty, groupReader]
          exact .right (.inl rfl)
      | succ inner' =>
          simp only [groupReader, acceptGroup_eq_bind hne]
          exact (hread inner inner' rfl rfl).bind fun operand => .same _

/-- So all tokens agree. -/
theorem agree_accept (hknown : other.known = settings.known)
    (hread : ∀ inner inner' body, groups = inner + 1 → groups' = inner' + 1 →
      Agree settings other (readNested settings inner body) (readNested other inner' body)) :
    Agree settings other (accept settings (groupReader settings groups) s token)
      (accept other (groupReader other groups') s token) := by
  have hname (word : Text) : acceptName other s word = acceptName settings s word := by
    rw [acceptName, acceptName, allows_of_known_eq hknown]
  unfold accept
  split
  · exact .same _
  · exact .same _
  · exact .same _
  · exact .same _
  · exact .same _
  · exact agree_acceptGroup fun inner inner' => hread inner inner' _
  · exact agree_acceptGroup fun inner inner' => hread inner inner' _
  · exact .same _
  · exact .same _
  · exact hname _ ▸ .same _
  · exact hname _ ▸ .same _
  · exact .same _

/-- A node is too high for one of the runs, or both build it and fail for the same reasons. -/
theorem agree_settle : Agree settings other (settle settings text s) (settle other text s) := by
  by_cases hmode : s.mode = .build
  · rw [settle, settle, if_pos hmode, if_pos hmode]
    cases hop : s.op with
    | none =>
        simp only [build, hop]
        exact .same _
    | some op =>
        by_cases hheight : settings.maxTreeDepth <
            1 + max s.leftHeight s.rightHeight
        · simp only [build, hop, if_pos hheight]
          exact .left (.inr rfl)
        by_cases hheight' : other.maxTreeDepth <
            1 + max s.leftHeight s.rightHeight
        · simp only [build, hop, if_pos hheight']
          exact .right (.inr rfl)
        simp only [build, hop, if_neg hheight, if_neg hheight']
        exact .same _
  · rw [settle, settle, if_neg hmode, if_neg hmode]
    exact .same _

/-- And so do rows of tokens. -/
theorem agree_readTokens (hknown : other.known = settings.known)
    (hread : ∀ inner inner' body, groups = inner + 1 → groups' = inner' + 1 →
      Agree settings other (readNested settings inner body) (readNested other inner' body)) :
    Agree settings other (readTokens settings (groupReader settings groups) text s toks)
      (readTokens other (groupReader other groups') text s toks) := by
  induction toks generalizing s with
  | nil => exact .same _
  | cons token toks ih =>
      exact ((agree_accept hknown hread).bind fun _ => agree_settle).bind fun _ => ih

/-- A text is read as the same, however many groups may be opened and however high trees may be,
unless one of these limits is exceeded. -/
theorem agree_readNested (hknown : other.known = settings.known) (groups groups' : Nat)
    (text : Text) :
    Agree settings other (readNested settings groups text) (readNested other groups' text) := by
  induction groups using Nat.strongRecOn generalizing groups' text with
  | ind groups ih =>
      rw [readNested_eq_readWith, readNested_eq_readWith]
      refine (agree_readTokens hknown ?_).bind fun _ => .same _
      intro inner inner' body hinner _
      exact ih inner (hinner ▸ Nat.lt_succ_self inner) inner' body

/-! ## Limits that cannot be exceeded -/

/-- Taking an operand does not move the reader. -/
theorem position_withOperand : (s.withOperand operand).position = s.position := by
  unfold State.withOperand
  split
  · rfl
  · split <;> rfl

/-- What has been read and what is still to be read make up the text. -/
theorem Turn.position_eq (h : Turn settings groups text s rest) :
    s.position + (textOf rest).length = text.length := by
  induction h with
  | first => simp
  | @afterToken s s' token rest hturn hmode haccept ih =>
      have hposition : s'.position = s.position + token.text.length := by
        rcases accept_cases haccept with ⟨c, rfl, rfl⟩ | ⟨body, rfl, rfl⟩ | ⟨op, rfl, -, rfl⟩ |
          ⟨operand, -, -, rfl⟩
        · rfl
        · rfl
        · rfl
        · exact position_withOperand
      rw [textOf_cons, List.length_append] at ih
      omega
  | afterBuild hturn hmode hbuild ih =>
      obtain ⟨op, node, -, -, rfl⟩ := build_eq_ok hbuild
      exact ih

/-- An operand makes the tree no higher than both together. -/
theorem height_withOperand_le : (s.withOperand operand).height ≤ s.height + operand.height := by
  unfold State.withOperand State.height
  split
  · show s.op.toList.length + max operand.height s.rightHeight ≤ _
    omega
  · split
    · show s.op.toList.length + max operand.height s.rightHeight ≤ _
      omega
    · show s.op.toList.length + max s.leftHeight operand.height ≤ _
      omega

/-- An operator makes it one higher. -/
theorem height_withOperator_le {op : Operator} : (s.withOperator op).height ≤ s.height + 1 := by
  show 1 + max s.leftHeight s.rightHeight ≤ _
  rw [State.height]
  omega

/-- A token makes the tree higher by no more than it is long. -/
theorem height_le_of_accept
    (haccept : accept settings (groupReader settings groups) s token = .ok s')
    (hoperand : ∀ operand, ReadsOperand settings groups token operand →
      operand.height ≤ token.text.length) :
    s'.height ≤ s.height + token.text.length := by
  rcases accept_cases haccept with ⟨c, rfl, rfl⟩ | ⟨body, rfl, rfl⟩ | ⟨op, rfl, -, rfl⟩ |
    ⟨operand, hread, -, rfl⟩
  · exact Nat.le_add_right _ _
  · exact Nat.le_add_right _ _
  · exact height_withOperator_le
  · exact Nat.le_trans height_withOperand_le (Nat.add_le_add_left (hoperand operand hread) _)

/-- A node that is built is as high as it was said to become. -/
theorem height_of_build (hbuild : build settings text s = .ok s') : s'.height = s.height := by
  obtain ⟨op, node, hop, -, rfl⟩ := build_eq_ok hbuild
  show 0 + max (1 + max s.leftHeight s.rightHeight) 0 = _
  rw [State.height, hop]
  simp

/-- The tree is never higher than the number of characters that were read. -/
theorem Turn.height_le (h : Turn settings groups text s rest)
    (hoperand : ∀ token operand, ReadsOperand settings groups token operand →
      operand.height ≤ token.text.length) : s.height ≤ s.position := by
  induction h with
  | first => exact Nat.le_refl 0
  | @afterToken s s' token rest hturn hmode haccept ih =>
      have hheight := height_le_of_accept haccept (hoperand token)
      have hbefore := hturn.position_eq
      have hafter := (hturn.afterToken hmode haccept).position_eq
      rw [textOf_cons, List.length_append] at hbefore
      omega
  | afterBuild hturn hmode hbuild ih =>
      rw [height_of_build hbuild]
      obtain ⟨op, node, -, -, rfl⟩ := build_eq_ok hbuild
      exact ih

/-- The tree of an operand is no higher than its text is long. -/
theorem ReadsOperand.height_le (h : ReadsOperand settings groups token operand)
    (hread : ∀ inner body root, groups = inner + 1 →
      readNested settings inner body = .ok root → root.height ≤ body.length) :
    operand.height ≤ token.text.length := by
  cases h with
  | name hne hknown => exact List.length_pos_iff.2 hne
  | @group inner body root hne hbody =>
      have hheight := hread inner body root rfl hbody
      show root.height ≤ ('(' :: body ++ [')']).length
      simp only [List.length_cons, List.length_append, List.length_nil]
      omega

/-- A tree is no higher than its text is long. -/
theorem height_le_length (h : readNested settings groups text = .ok root) :
    root.height ≤ text.length := by
  induction groups using Nat.strongRecOn generalizing text root with
  | ind groups ih =>
      obtain ⟨s, rest, hturn, hends⟩ := exists_endsIn settings groups text
      have hheight := hturn.height_le fun token operand hoperand =>
        hoperand.height_le fun inner body root hinner hread =>
          ih inner (hinner ▸ Nat.lt_succ_self inner) hread
      have hposition := hturn.position_eq
      rw [h] at hends
      cases hends with
      | finished hmode hfinish =>
          obtain ⟨hlhs, -⟩ := finish_eq_ok_iff.1 hfinish
          have hroot : root.height ≤ s.height := by
            rw [State.height, (State.lhs_eq_some_iff.1 hlhs).2]
            omega
          omega

/-- A node that is due is no higher than what has been read is long. -/
theorem Turn.height_node_le (h : Turn settings groups text s rest) (hop : s.op.isSome) :
    1 + max s.leftHeight s.rightHeight ≤ text.length := by
  have hheight := h.height_le fun token operand hoperand =>
    hoperand.height_le fun inner body root _ hread => height_le_length hread
  have hposition := h.position_eq
  obtain ⟨op, hop⟩ := Option.isSome_iff_exists.1 hop
  rw [State.height, hop, Option.toList_some, List.length_singleton] at hheight
  omega

/-- Limits of at least the length of the text are not exceeded in it. -/
theorem not_exceeded_of_length_le (hgroups : text.length ≤ groups)
    (htree : text.length ≤ settings.maxTreeDepth)
    (h : readNested settings groups text = .error e) : ¬ settings.Exceeded e.cause := by
  induction groups using Nat.strongRecOn generalizing text e with
  | ind groups ih =>
      obtain ⟨s, rest, hturn, hends⟩ := exists_endsIn settings groups text
      rw [h] at hends
      cases hends with
      | @refused token rest e hmode hrefuses =>
          -- The body of a group is shorter than the text, so one group fewer is enough for it.
          have hlength := length_text_le (hturn.suffix.subset List.mem_cons_self)
          cases hrefuses with
          | nestedTooDeep hplace hne =>
              simp only [Token.text_group, List.length_cons, List.length_append] at hlength
              omega
          | @inGroup inner _ body e hplace hread =>
              simp only [Token.text_group, List.length_cons, List.length_append] at hlength
              exact ih inner (Nat.lt_succ_self inner) (by omega) (by omega) hread
          | _ => rintro (hcause | hcause) <;> cases hcause
      | unbuilt hmode hbuild =>
          cases hbuild with
          | tooHigh hop hheight =>
              have hnode := hturn.height_node_le (by simp [hop])
              omega
          | _ => rintro (hcause | hcause) <;> cases hcause
      | leftOver hmode hleft =>
          cases hleft <;> rintro (hcause | hcause) <;> cases hcause

/-! ## Limits that are kept -/

/-- A row of tokens nests no deeper than every one of them does. -/
theorem nesting_textOf_le_iff {depth : Nat} (h : ∀ token ∈ toks, token.text.WellNested) :
    (textOf toks).nesting ≤ depth ↔ ∀ token ∈ toks, token.text.nesting ≤ depth := by
  induction toks with
  | nil => simp [Text.nesting, Text.outside, Text.outsideFrom, Text.deepest]
  | cons token toks ih =>
      obtain ⟨htoken, htoks⟩ := List.forall_mem_cons.1 h
      rw [textOf_cons, htoken.nesting_append, Nat.max_le, ih htoks, List.forall_mem_cons]

/-- How deep an accepted text is nested is a matter of its tokens. -/
theorem Reached.nesting_le_iff {depth : Nat}
    (h : Reached settings groups text (tokens text) s) :
    text.nesting ≤ depth ↔ ∀ token ∈ tokens text, token.text.nesting ≤ depth := by
  have hnested := h.lexedBefore.wellNested_text fun body hmem => h.wellNested_group hmem
  have hiff : (textOf (tokens text)).nesting ≤ depth ↔ _ := nesting_textOf_le_iff hnested
  rwa [textOf_tokens] at hiff

/-- An accepted text is nested no deeper than groups may be opened. -/
theorem nesting_le_of_readNested (h : readNested settings groups text = .ok root) :
    text.nesting ≤ groups := by
  induction groups using Nat.strongRecOn generalizing text root with
  | ind groups ih =>
      obtain ⟨s, hreached, -⟩ := readNested_eq_ok_iff.1 h
      refine hreached.nesting_le_iff.2 fun token hmem => ?_
      obtain ⟨rest, hlexed⟩ := hreached.lexedBefore.exists_lexed hmem
      cases token with
      | blank c => simp [(plain_blank hlexed).nesting_eq]
      | condition body =>
          rw [Token.text_condition, Text.nesting_condition hlexed]
          exact Nat.zero_le _
      | operator op => simp [(plain_symbol op).nesting_eq]
      | name word => simp [(plain_of_isRelationName hlexed.1).nesting_eq]
      | group body =>
          obtain ⟨inner, operand, rfl, hread⟩ := hreached.read_group hmem
          rw [Token.text_group, (readNested_wellNested hread).nesting_group]
          exact Nat.succ_le_succ (ih inner (Nat.lt_succ_self inner) hread)
      | openCondition _ => cases hlexed
      | openGroup _ => cases hlexed
      | other _ => cases hlexed

/-- What the reader keeps on the left is within the limit. -/
def State.Within (settings : Settings) (s : State) : Prop :=
  ∀ lhs ∈ s.lhs, lhs.Within settings

/-- A node that is within the limit is no higher than the limit. -/
theorem Operand.Within.height_le {node : Expr} {height : Nat} (hnode : node.isRelation = false)
    (h : Operand.Within settings ⟨node, height⟩) : height ≤ settings.maxTreeDepth :=
  h.resolve_left (by simp [hnode])

/-- What leads to something within the limit was within it, and leads there under that limit. -/
theorem Step.within (hs : s.BetweenTokens) (h : Step settings groups text s token s')
    (hwithin : s'.Within other)
    (hoperand : ∀ operand, ReadsOperand settings groups token operand → operand.Within other →
      ReadsOperand other groups' token operand) :
    s.Within other ∧ Step other groups' text s token s' := by
  cases h with
  | blank c => exact ⟨hwithin, .blank s c⟩
  | condition body => exact ⟨hwithin, .condition s body⟩
  | operator op hmode => exact ⟨hwithin, .operator s op hmode⟩
  | @left _ operand hmode hread hop hlhs =>
      have hheld : operand.Within other := hwithin operand rfl
      exact ⟨by simp [State.Within, hlhs], .left s hmode (hoperand _ hread hheld) hop hlhs⟩
  | @unary _ operand op node hmode hread hop hunary hheight hnode =>
      have hrelation : node.isRelation = false := by
        obtain ⟨condition, -, rfl⟩ := Expr.assemble_unary hunary hnode
        rfl
      have hheight' : 1 + operand.height ≤ other.maxTreeDepth :=
        (hwithin _ rfl).height_le hrelation
      have hlhs : s.lhs = none := by
        obtain ⟨op', hop', hlhs⟩ := hs.operand hmode
        cases hop.symm.trans hop'
        exact hlhs hunary
      -- An operand is lower than the node, so it is within the limit too.
      have hread' := hoperand operand hread (.inr (by omega))
      exact ⟨by simp [State.Within, hlhs], .unary s hmode hread' hop hunary hheight' hnode⟩
  | @binary _ lhs operand op node hmode hread hop hbinary hlhs hheight hnode =>
      have hrelation := (Expr.assemble_binary hbinary hnode).isRelation_eq
      have hheight' : 1 + max lhs.height operand.height ≤ other.maxTreeDepth :=
        (hwithin _ rfl).height_le hrelation
      have hread' := hoperand operand hread (.inr (by omega))
      refine ⟨?_, .binary s hmode hread' hop hbinary hlhs hheight' hnode⟩
      intro held hheld
      cases hlhs.symm.trans hheld
      exact .inr (by omega)

/-- A run that leads to something within the limit is a run under that limit. -/
theorem Reached.within (h : Reached settings groups text before s) (hwithin : s.Within other)
    (hoperand : ∀ token ∈ before, ∀ operand, ReadsOperand settings groups token operand →
      operand.Within other → ReadsOperand other groups' token operand) :
    Reached other groups' text before s := by
  induction h with
  | initial => exact .initial
  | @snoc before s s' token hreached hstep ih =>
      have htoken : token ∈ before ++ [token] := List.mem_append_right before List.mem_cons_self
      obtain ⟨hs, hstep'⟩ := hstep.within hreached.betweenTokens hwithin (hoperand token htoken)
      exact (ih hs fun token hmem => hoperand token (List.mem_append_left _ hmem)).snoc hstep'

/-- A text is accepted where its groups may be opened and its tree may be as high as it is. -/
theorem readNested_of_within (h : readNested settings groups text = .ok root)
    (hknown : other.known = settings.known) (hnesting : text.nesting ≤ groups')
    (hwithin : root.Within other) : readNested other groups' text = .ok root := by
  induction groups using Nat.strongRecOn generalizing groups' text root with
  | ind groups ih =>
      obtain ⟨s, hreached, hroot, hop, hcondition⟩ := readNested_eq_ok_iff.1 h
      have hs : s.Within other := by
        intro lhs hlhs
        cases hroot.symm.trans hlhs
        exact hwithin
      have htokens := hreached.nesting_le_iff.1 hnesting
      refine readNested_eq_ok_iff.2 ⟨s, hreached.within hs ?_, hroot, hop, hcondition⟩
      intro token hmem operand hread hoperand
      cases hread with
      | name hne hallowed => exact .name hne (allows_of_known_eq hknown _ ▸ hallowed)
      | @group inner body root hne hread =>
          have hgroup := htokens _ hmem
          rw [Token.text_group, (readNested_wellNested hread).nesting_group] at hgroup
          obtain ⟨inner', rfl⟩ := Nat.exists_eq_succ_of_ne_zero (Nat.ne_of_gt
            (Nat.lt_of_lt_of_le (Nat.succ_pos _) hgroup))
          refine .group hne (ih inner (Nat.lt_succ_self inner) hread (by omega) ?_)
          simpa [Operand.Within, Operand.grouped] using hoperand

/-- The groups of an accepted text may be opened, and its tree is within the limit. -/
theorem readNested_eq_ok_iff_within (h : readNested settings groups text = .ok root)
    (hknown : other.known = settings.known) :
    readNested other groups' text = .ok root ↔ text.nesting ≤ groups' ∧ root.Within other := by
  refine ⟨fun hread => ⟨nesting_le_of_readNested hread, ?_⟩, fun ⟨hnesting, hwithin⟩ =>
    readNested_of_within h hknown hnesting hwithin⟩
  have hsound := readNested_sound hread
  rw [Operand.Within, hsound.height_eq]
  exact hsound.fits.height_le

/-- Limits only cut off, and cut off exactly. A text that is read where they are at least its length
is read as the same under other limits just if its parentheses nest no deeper and its tree, unless
it is a relation, is no higher, and else one of the limits is exceeded. A text that is refused there
is refused under other limits too, by the same error unless one of the limits is exceeded. -/
theorem read_limits (settings : Settings) (text : Text) (hdepth : text.length ≤ settings.maxDepth)
    (htree : text.length ≤ settings.maxTreeDepth) (depth treeDepth : Nat) :
    (∀ n, read settings text = .ok n →
      (read (settings.limited depth treeDepth) text = .ok n ↔
        text.nesting ≤ depth ∧ (n.isRelation ∨ n.height ≤ treeDepth)) ∧
      (¬ (text.nesting ≤ depth ∧ (n.isRelation ∨ n.height ≤ treeDepth)) →
        ∃ e, read (settings.limited depth treeDepth) text = .error e ∧
          (e.cause = .nestedTooDeep depth ∨ e.cause = .treeTooHigh treeDepth))) ∧
    ∀ e, read settings text = .error e →
      ∃ e', read (settings.limited depth treeDepth) text = .error e' ∧
        (e' = e ∨ e'.cause = .nestedTooDeep depth ∨ e'.cause = .treeTooHigh treeDepth) := by
  have hknown : (settings.limited depth treeDepth).known = settings.known := rfl
  have hagree := agree_readNested hknown settings.maxDepth depth text
  refine ⟨fun n hn => ?_, fun e he => ?_⟩
  · obtain ⟨root, hroot, rfl⟩ := read_eq_ok_iff.1 hn
    have hiff : readNested (settings.limited depth treeDepth) depth text = .ok root ↔
        text.nesting ≤ depth ∧ (root.expr.isRelation ∨ root.expr.height ≤ treeDepth) := by
      rw [← (readNested_sound hroot).height_eq]
      exact readNested_eq_ok_iff_within hroot hknown
    rw [← hiff]
    rw [hroot] at hagree
    rcases hagree.of_ok with hsame | ⟨e, hrefused, hexceeded⟩
    · exact ⟨iff_of_true (read_eq_ok_iff.2 ⟨root, hsame, rfl⟩) hsame, absurd hsame⟩
    · have hread := read_eq_error_iff.2 hrefused
      refine ⟨iff_of_false ?_ ?_, fun _ => ⟨e, hread, hexceeded⟩⟩
      · rw [hread]
        nofun
      · rw [hrefused]
        nofun
  · have hlarge := read_eq_error_iff.1 he
    rw [hlarge] at hagree
    obtain ⟨e', hrefused, hcause⟩ :=
      hagree.of_error (not_exceeded_of_length_le hdepth htree hlarge)
    exact ⟨e', read_eq_error_iff.2 hrefused, hcause⟩

/-- One group and a tree of height three under the least limits and under lower ones, and a text
that is refused under any. -/
theorem read_limits_in_group :
    "R ∪ (S ∩ T)".toList.length ≤ ({} : Settings).maxDepth ∧
      "R ∪ (S ∩ T)".toList.length ≤ ({} : Settings).maxTreeDepth ∧
      (∃ n, read {} "R ∪ (S ∩ T)".toList = .ok n ∧
        read (Settings.limited {} 1 3) "R ∪ (S ∩ T)".toList = .ok n ∧
        ∃ e, read (Settings.limited {} 1 2) "R ∪ (S ∩ T)".toList = .error e ∧
          (e.cause = .nestedTooDeep 1 ∨ e.cause = .treeTooHigh 2)) ∧
      ∃ e e', read {} "(R ∪ S) T".toList = .error e ∧ e.cause = .unexpectedToken ∧
        read (Settings.limited {} 0 3) "(R ∪ S) T".toList = .error e' ∧
        (e' = e ∨ e'.cause = .nestedTooDeep 0 ∨ e'.cause = .treeTooHigh 3) := by
  have hread : read {} "R ∪ (S ∩ T)".toList =
      .ok (.setOp .union (.named ['R'])
        (.setOp .intersect (.named ['S']) (.named ['T']) "(S ∩ T)".toList)
        "R ∪ (S ∩ T)".toList) := by
    rfl
  have hrefused : read {} "(R ∪ S) T".toList =
      .error ⟨.unexpectedToken, 8, some 'T', .operator⟩ := by
    rfl
  have hdepth : "R ∪ (S ∩ T)".toList.length ≤ ({} : Settings).maxDepth := by decide
  have htree : "R ∪ (S ∩ T)".toList.length ≤ ({} : Settings).maxTreeDepth := by decide
  have hlow := ((read_limits {} _ hdepth htree 1 2).1 _ hread).2 (by decide)
  have hleast := ((read_limits {} _ hdepth htree 1 3).1 _ hread).1.2 (by decide)
  obtain ⟨e', hrefused', hcause'⟩ :=
    (read_limits {} "(R ∪ S) T".toList (by decide) (by decide) 0 3).2 _ hrefused
  exact ⟨hdepth, htree, ⟨_, hread, hleast, hlow⟩, _, e', hrefused, rfl, hrefused', hcause'⟩

end RelQuery.Syntax
