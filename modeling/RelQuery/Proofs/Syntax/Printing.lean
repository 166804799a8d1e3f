import RelQuery.Proofs.Syntax.Sound

/-!
# Reading the one-line form

The one-line form of a tree is cut into `printedTokens` when what stands between parentheses in it
is balanced over the bare text (`lexedBefore_printedTokens`). Read from the beginning of any text
that begins with them, these tokens leave the tree itself as the only operand, and the whole form as
its source (`reached_printedTokens`). The induction is over the tree: a left operand is printed
without parentheses, so what comes before it is nothing, and what follows it is arbitrary.
-/

namespace RelQuery

open Syntax

namespace Expr

/-- The token that an operand on the right or under a unary operator is printed as. -/
def operandToken : Expr → Token
  | relation name _ => .name name
  | operand => .group operand.toText

/-- The tokens of a condition, if there is one, between an operator and an operand. -/
def conditionTokens : (given : Option Text) → List Token
  | none => []
  | some condition => [.condition condition, .blank ' ']

/-- The tokens between two operands. -/
def infixTokens (op : Operator) (given : Option Text) : List Token :=
  [.blank ' ', .operator op, .blank ' '] ++ conditionTokens given

/-- The tokens in front of the operand of a unary operator. -/
def prefixTokens (op : Operator) (given : Option Text) : List Token :=
  [.operator op, .blank ' '] ++ conditionTokens given

/-- The tokens that the one-line form is made of. -/
def printedTokens : Expr → List Token
  | relation name _ => [.name name]
  | setOp op lhs rhs _ => lhs.printedTokens ++ infixTokens op none ++ [rhs.operandToken]
  | unary op condition operand _ => prefixTokens op (some condition) ++ [operand.operandToken]
  | join op lhs rhs _ => lhs.printedTokens ++ infixTokens op none ++ [rhs.operandToken]
  | conditionalJoin op condition lhs rhs _ =>
      lhs.printedTokens ++ infixTokens op (some condition) ++ [rhs.operandToken]

variable {op : Operator} {given : Option Text} {e lhs rhs operand : Expr} {rest : Text}

/-- The token of an operand has the text that the operand is printed as. -/
@[simp] theorem text_operandToken (operand : Expr) :
    operand.operandToken.text = operandText operand operand.toText := by
  cases operand <;> rfl

/-- So do the tokens of a condition. -/
@[simp] theorem textOf_conditionTokens (given : Option Text) :
    textOf (conditionTokens given) = conditionText given := by
  cases given <;> simp [conditionTokens, conditionText, braced]

/-- A binary node is printed as its left operand, its operator and condition, and its right operand.
-/
theorem BinaryNode.printedTokens_eq (h : BinaryNode op lhs rhs given e) :
    e.printedTokens = lhs.printedTokens ++ infixTokens op given ++ [rhs.operandToken] := by
  cases h <;> rfl

/-- The tokens of a tree have the text that the tree is printed as. -/
theorem textOf_printedTokens (e : Expr) : textOf e.printedTokens = e.toText := by
  induction e using nodeInduction with
  | relation name source => simp [printedTokens, toText]
  | unary op condition operand source ih => simp [printedTokens, prefixTokens, toText_unary]
  | binary op given lhs rhs e hnode ihl ihr =>
      simp [hnode.printedTokens_eq, infixTokens, hnode.toText_eq, ihl]

/-! ## Cutting the one-line form -/

/-- The token of an operand is cut out of a text as a whole. -/
theorem lexed_operandToken (h : operand.Printable)
    (hgroups : ∀ group ∈ operandGroups operand operand.printedGroups, group.toText.Balanced)
    (hrest : NameEnds rest) : operand.operandToken.Lexed rest := by
  cases operand with
  | relation name source => exact ⟨h.isRelationName, hrest⟩
  | _ => exact hgroups _ List.mem_cons_self

/-- So are the tokens of a condition. -/
theorem lexedBefore_conditionTokens (h : ∀ c ∈ given, '}' ∉ c) :
    LexedBefore rest (conditionTokens given) := by
  cases given with
  | none => trivial
  | some condition => exact ⟨h condition rfl, rfl, trivial⟩

/-- A blank ends the last name in front of it. -/
theorem nameEnds_infixTokens : NameEnds (textOf (infixTokens op given) ++ rest) := by
  simpa [NameEnds, infixTokens] using isNameChar_space

/-- The one-line form is cut into the tokens it is made of, in front of anything that does not go on
with its last name. -/
theorem lexedBefore_printedTokens (h : e.Printable)
    (hgroups : ∀ group ∈ e.printedGroups, group.toText.Balanced) (hrest : NameEnds rest) :
    LexedBefore rest e.printedTokens := by
  induction e using nodeInduction generalizing rest with
  | relation name source => exact ⟨⟨h.isRelationName, by simpa using hrest⟩, trivial⟩
  | unary op condition operand source ih =>
      obtain ⟨-, hcondition, ho⟩ := printable_unary.1 h
      have hoperand := lexed_operandToken ho hgroups hrest
      exact ⟨trivial, rfl, hcondition.2, rfl, by simpa using hoperand, trivial⟩
  | binary op given lhs rhs e hnode ihl ihr =>
      obtain ⟨-, hgiven, hl, hr⟩ := hnode.printable h
      rw [hnode.printedGroups_eq] at hgroups
      obtain ⟨hgl, hgr⟩ := List.forall_mem_append.1 hgroups
      rw [hnode.printedTokens_eq, List.append_assoc]
      refine lexedBefore_append.2 ⟨ihl hl hgl ?_, lexedBefore_append.2 ⟨?_, ?_⟩⟩
      · rw [textOf_append, List.append_assoc]
        exact nameEnds_infixTokens
      · exact ⟨rfl, trivial, rfl, lexedBefore_conditionTokens fun c hc => (hgiven c hc).2⟩
      · exact ⟨by simpa using lexed_operandToken hr hgr hrest, trivial⟩

/-- The one-line form of a tree is cut into just these tokens. -/
theorem tokens_toText (h : e.Printable)
    (hgroups : ∀ group ∈ e.printedGroups, group.toText.Balanced) :
    tokens e.toText = e.printedTokens := by
  have hlexed : LexedBefore [] e.printedTokens := lexedBefore_printedTokens h hgroups nofun
  simpa [textOf_printedTokens, tokens_nil] using tokens_append_of_lexedBefore hlexed

end Expr

namespace Syntax

variable {settings : Settings} {groups : Nat} {text : Text} {s : State} {before : List Token}
variable {e lhs rhs operand : Expr} {op : Operator} {given : Option Text}

/-! ## Parts of a tree within the limits -/

/-- A tree that fits is no higher than the settings allow, unless it is a relation. -/
theorem Fits.height_le_of_composite (h : Fits settings groups e) (he : e.isRelation = false) :
    e.height ≤ settings.maxTreeDepth := by
  rcases h.height_le with hrelation | hheight
  · rw [he] at hrelation
    cases hrelation
  · exact hheight

/-- Parentheses around an operand make nothing less deep. -/
theorem groupDepth_le_operandDepth (operand : Expr) :
    operand.groupDepth ≤ Expr.operandDepth operand operand.groupDepth := by
  cases operand with
  | relation name source => exact Nat.le_refl 0
  | _ => exact Nat.le_succ _

/-- The operands of a binary node keep within its limits, the right one with the parentheses that
it may need. -/
theorem Fits.binary (h : Fits settings groups e) (hnode : Expr.BinaryNode op lhs rhs given e) :
    Fits settings groups lhs ∧ Fits settings groups rhs ∧
      Expr.operandDepth rhs rhs.groupDepth ≤ groups := by
  obtain ⟨-, -, hl, hr⟩ := hnode.printable h.printable
  have hheight := h.height_le_of_composite hnode.isRelation_eq
  have hallowed := h.allowed
  have hgroups := h.groupDepth_le
  rw [hnode.height_eq] at hheight
  rw [hnode.relationNames_eq] at hallowed
  rw [hnode.groupDepth_eq] at hgroups
  obtain ⟨hallowedl, hallowedr⟩ := List.forall_mem_append.1 hallowed
  obtain ⟨hgroupsl, hgroupsr⟩ := Nat.max_le.1 hgroups
  have hmax : max lhs.height rhs.height ≤ settings.maxTreeDepth := by omega
  obtain ⟨hheightl, hheightr⟩ := Nat.max_le.1 hmax
  have hgroups := Nat.le_trans (groupDepth_le_operandDepth rhs) hgroupsr
  exact ⟨⟨hl, hallowedl, .inr hheightl, hgroupsl⟩, ⟨hr, hallowedr, .inr hheightr, hgroups⟩,
    hgroupsr⟩

/-- The operand of a unary node keeps within its limits, with the parentheses that it may need. -/
theorem Fits.unary {condition source : Text}
    (h : Fits settings groups (.unary op condition operand source)) :
    Fits settings groups operand ∧ Expr.operandDepth operand operand.groupDepth ≤ groups := by
  obtain ⟨-, -, ho⟩ := Expr.printable_unary.1 h.printable
  have hheight : 1 + operand.height ≤ settings.maxTreeDepth := h.height_le_of_composite rfl
  have hgroups := Nat.le_trans (groupDepth_le_operandDepth operand) h.groupDepth_le
  exact ⟨⟨ho, h.allowed, .inr (by omega), hgroups⟩, h.groupDepth_le⟩

/-- Between parentheses one group fewer is left to open. -/
theorem Fits.enclosed (h : Fits settings groups operand) (he : operand.isRelation = false)
    (hdepth : Expr.operandDepth operand operand.groupDepth ≤ groups) :
    ∃ inner, groups = inner + 1 ∧ Fits settings inner operand := by
  rw [Expr.operandDepth, he] at hdepth
  cases groups with
  | zero => cases hdepth
  | succ groups =>
      exact ⟨groups, rfl, h.printable, h.allowed, h.height_le, Nat.le_of_succ_le_succ hdepth⟩

/-! ## Reading the tokens -/

/-- The reader keeps nothing but what it has read the one-line form of `e` as. -/
structure State.Holds (s : State) (e : Expr) : Prop where
  mode_eq : s.mode = .operator
  op_eq : s.op = none
  condition_eq : s.condition = none
  lhs : ∃ read, s.lhs = some ⟨read, e.height⟩ ∧ read.erase = e.erase ∧ read.source = e.toText

/-- The reader takes the operand's token for the operand. -/
def ReadsPrinted (settings : Settings) (groups : Nat) (operand : Expr) : Prop :=
  ∃ read, ReadsOperand settings groups operand.operandToken ⟨read, operand.height⟩ ∧
    read.erase = operand.erase

/-- With its last token the whole one-line form has been read. -/
theorem Reached.take_advance_printed {token : Token} (h : Reached settings groups text before s)
    (htokens : e.printedTokens = before ++ [token]) (htext : e.toText <+: text) :
    text.take (s.advance token).position = e.toText := by
  rw [← Expr.textOf_printedTokens, htokens] at htext ⊢
  exact h.take_advance htext

/-- The tokens between two operands are kept until the right one comes. -/
theorem Reached.infixTokens (h : Reached settings groups text before s) (hs : s.Holds lhs)
    (hop : op.category ≠ .unary) (given : Option Text) :
    ∃ s', Reached settings groups text (before ++ Expr.infixTokens op given) s' ∧
      s'.mode = .operand ∧ s'.op = some op ∧ s'.lhs = s.lhs ∧ s'.condition = given := by
  have hblank := h.snoc (.blank s ' ')
  have hoperator := hblank.snoc (.operator _ op (.inr ⟨hs.mode_eq, hop⟩))
  have hbetween := hoperator.snoc (.blank _ ' ')
  cases given with
  | none =>
      rw [List.append_assoc, List.append_assoc] at hbetween
      exact ⟨_, hbetween, rfl, rfl, rfl, hs.condition_eq⟩
  | some condition =>
      have hcondition := (hbetween.snoc (.condition _ condition)).snoc (.blank _ ' ')
      simp only [List.append_assoc] at hcondition
      exact ⟨_, hcondition, rfl, rfl, rfl, rfl⟩

/-- The right operand completes the node. -/
theorem Reached.binary (h : Reached settings groups text lhs.printedTokens s) (hs : s.Holds lhs)
    (hnode : Expr.BinaryNode op lhs rhs given e) (he : Fits settings groups e)
    (hrhs : ReadsPrinted settings groups rhs) (htext : e.toText <+: text) :
    ∃ s', Reached settings groups text e.printedTokens s' ∧ s'.Holds e := by
  obtain ⟨l, hlhs, hl, -⟩ := hs.lhs
  obtain ⟨r, hread, hr⟩ := hrhs
  obtain ⟨hop, hgiven, -, -⟩ := hnode.printable he.printable
  obtain ⟨middle, hreached, hmode, hmiddle, hleft, hcondition⟩ := h.infixTokens hs hop given
  obtain ⟨node, hassemble, herase, hsource⟩ :=
    hnode.assemble he.printable.wellFormed (fun c hc => (hgiven c hc).1) hl hr e.toText
  have hle := he.height_le_of_composite hnode.isRelation_eq
  rw [hnode.height_eq] at hle
  rw [hlhs] at hleft
  have hstep : Step settings groups text middle rhs.operandToken _ :=
    .binary middle hmode hread hmiddle hop hleft hle
      (by rwa [hreached.take_advance_printed hnode.printedTokens_eq htext, hcondition])
  rw [hnode.printedTokens_eq]
  refine ⟨_, hreached.snoc hstep, rfl, rfl, rfl, node, ?_, herase, hsource⟩
  rw [hnode.height_eq]
  rfl

/-- A unary operator, its condition and its operand are a node. -/
theorem reached_unary {condition source : Text} (ho : ReadsPrinted settings groups operand)
    (hop : op.category = .unary) (hcondition : condition ≠ [])
    (hle : 1 + operand.height ≤ settings.maxTreeDepth)
    (htext : (Expr.unary op condition operand source).toText <+: text) :
    ∃ s', Reached settings groups text (Expr.unary op condition operand source).printedTokens s' ∧
      s'.Holds (.unary op condition operand source) := by
  obtain ⟨read, hread, herase⟩ := ho
  have hinitial : Reached settings groups text [] {} := .initial
  have hoperator := hinitial.snoc (.operator _ op (.inl rfl))
  have hgiven := (hoperator.snoc (.blank _ ' ')).snoc (.condition _ condition)
  have hbefore := hgiven.snoc (.blank _ ' ')
  have htake := hbefore.take_advance_printed (e := .unary op condition operand source) rfl htext
  have hnode (source : Text) : Expr.assemble op (some read) none (some condition) source =
      .ok (.unary op condition read source) := by
    have hpresent : Expr.presentCondition (some condition) = some condition :=
      Expr.presentCondition_of_ne_nil (by simpa using hcondition)
    simp [Expr.assemble, hop, hpresent]
  refine ⟨_, hbefore.snoc (.unary _ rfl hread rfl hop hle (hnode _)), rfl, rfl, rfl, _, rfl, ?_,
    htake⟩
  rw [Expr.erase, herase, Expr.erase]

/-- A tree whose one-line form is read is read from it as a whole text. -/
theorem readNested_of_reached (h : Reached settings groups e.toText (tokens e.toText) s)
    (hs : s.Holds e) :
    ∃ read, readNested settings groups e.toText = .ok ⟨read, e.height⟩ ∧ read.erase = e.erase ∧
      read.source = e.toText := by
  obtain ⟨read, hlhs, herase, hsource⟩ := hs.lhs
  have hcondition : Expr.presentCondition s.condition = none := by
    rw [hs.condition_eq]
    rfl
  exact ⟨read, readNested_eq_ok_iff.2 ⟨s, h, hlhs, hs.op_eq, hcondition⟩, herase, hsource⟩

/-- The token of a relation is read as that relation. -/
theorem readsOperand_relation {name source : Text}
    (h : Fits settings groups (.relation name source)) :
    ReadsOperand settings groups (.name name) ⟨.named name, 1⟩ := by
  obtain ⟨hne, -⟩ := isRelationName_iff.1 h.printable.isRelationName
  exact .name hne (h.allowed name (by simp [Expr.relationNames]))

/-- An operand is read from its token if its one-line form is read with enough groups to open. -/
theorem readsPrinted_of_reached (h : Fits settings groups operand)
    (hdepth : Expr.operandDepth operand operand.groupDepth ≤ groups)
    (hgroups : ∀ group ∈ Expr.operandGroups operand operand.printedGroups, group.toText.Balanced)
    (hread : ∀ inner, Fits settings inner operand →
      (∀ group ∈ operand.printedGroups, group.toText.Balanced) →
      ∃ s, Reached settings inner operand.toText operand.printedTokens s ∧ s.Holds operand) :
    ReadsPrinted settings groups operand := by
  by_cases he : operand.isRelation
  · cases operand with
    | relation name source => exact ⟨_, readsOperand_relation h, rfl⟩
    | _ => cases he
  · rw [Bool.not_eq_true] at he
    obtain ⟨inner, rfl, hfits⟩ := h.enclosed he hdepth
    have hinside : ∀ group ∈ operand.printedGroups, group.toText.Balanced := by
      simp only [Expr.operandGroups, he, if_false, Bool.false_eq_true,
        List.forall_mem_cons] at hgroups
      exact hgroups.2
    obtain ⟨s, hreached, hs⟩ := hread inner hfits hinside
    rw [← Expr.tokens_toText hfits.printable hinside] at hreached
    obtain ⟨read, hok, herase, -⟩ := readNested_of_reached hreached hs
    have htoken : operand.operandToken = .group operand.toText := by
      cases operand with
      | relation name source => cases he
      | _ => rfl
    rw [ReadsPrinted, htoken]
    exact ⟨_, .group h.printable.toText_ne_nil hok, by simpa [Operand.grouped] using herase⟩

/-- The tokens of the one-line form are read as the tree, at the beginning of any text. -/
theorem reached_printedTokens (h : Fits settings groups e)
    (hgroups : ∀ group ∈ e.printedGroups, group.toText.Balanced) (htext : e.toText <+: text) :
    ∃ s, Reached settings groups text e.printedTokens s ∧ s.Holds e := by
  -- A left operand leaves the rest of the text open; an operand in a group is a text of its own and
  -- has one group fewer to open.
  induction e using Expr.nodeInduction generalizing groups text with
  | relation name source =>
      have hinitial : Reached settings groups text [] {} := .initial
      have hread : ReadsOperand settings groups (.name name) _ := readsOperand_relation h
      exact ⟨_, hinitial.snoc (.left _ (.inl rfl) hread nofun rfl), rfl, rfl, rfl, _, rfl, rfl, rfl⟩
  | unary op condition operand source ih =>
      obtain ⟨hop, hcondition, ho⟩ := Expr.printable_unary.1 h.printable
      obtain ⟨hfits, hdepth⟩ := h.unary
      have hread := readsPrinted_of_reached hfits hdepth hgroups fun _ hfits hgroups =>
        ih hfits hgroups List.prefix_rfl
      exact reached_unary hread hop hcondition.1 (h.height_le_of_composite rfl) htext
  | binary op given lhs rhs e hnode ihl ihr =>
      obtain ⟨hfitsl, hfitsr, hdepth⟩ := h.binary hnode
      rw [hnode.printedGroups_eq] at hgroups
      obtain ⟨hgl, hgr⟩ := List.forall_mem_append.1 hgroups
      have hfront : lhs.toText <+: text := by
        rw [hnode.toText_eq, List.append_assoc] at htext
        exact (List.prefix_append _ _).trans htext
      obtain ⟨s, hreached, hs⟩ := ihl hfitsl hgl hfront
      have hread := readsPrinted_of_reached hfitsr hdepth hgr fun _ hfits hgroups =>
        ihr hfits hgroups List.prefix_rfl
      exact hreached.binary hs hnode h hread htext

end Syntax

end RelQuery
