import RelQuery.Proofs.Syntax.Conditions
import RelQuery.Proofs.Syntax.Limits

/-!
# The text of a node

The text that a node carries is read as that node again, every text in it included (`read_source`).
The text of a node that has been built is the beginning of what was being read, up to the token that
completed the node; reading that beginning by itself goes through the same states and ends with the
node (`readNested_textOf`). The text of a name is the name, and that of a group is the text of the
node in it between parentheses again, which is one group only if the parentheses in it are balanced
over the bare text. They are if those in its conditions are.
-/

namespace RelQuery

namespace Expr

variable {e lhs rhs node : Expr} {op : Operator} {given : Option Text} {source : Text}

/-- The source that a tree is given is its source. -/
theorem source_withSource : (e.withSource source).source = source := by
  cases e <;> rfl

/-- A tree is one of its own nodes. -/
theorem mem_nodes_self (e : Expr) : e ∈ e.nodes := by
  cases e <;> simp [nodes]

/-- Only the root changes when it gets another text. -/
theorem mem_nodes_withSource (h : node ∈ (e.withSource source).nodes) :
    node = e.withSource source ∨ node ∈ e.nodes := by
  cases e with
  | relation name other => exact .inl (List.mem_singleton.1 h)
  | _ => exact (List.mem_cons.1 h).imp_right (List.mem_cons_of_mem _)

/-- The nodes of a binary node are that node and those of its operands. -/
theorem BinaryNode.mem_nodes (h : BinaryNode op lhs rhs given e) {m : Expr} (hmem : m ∈ e.nodes) :
    m = e ∨ m ∈ lhs.nodes ∨ m ∈ rhs.nodes := by
  cases h <;> simpa [nodes] using hmem

/-- A node carries the text that it is built with. -/
theorem source_of_assemble {left right : Option Expr}
    (h : assemble op left right given source = .ok node) : node.source = source := by
  unfold assemble at h
  split at h
  · split at h
    · split at h <;> cases h
      rfl
    · cases h
  · split at h
    · split at h <;> cases h
      rfl
    · cases h
  · split at h
    · split at h <;> cases h <;> rfl
    · cases h

end Expr

namespace Syntax

open Text (conditionBlocks)

variable {settings : Settings} {groups more : Nat} {text text' rest : Text} {s s' : State}
variable {token : Token} {before toks : List Token} {root operand : Operand}

/-! ## Reading the beginning of a text -/

/-- A step looks at no more of the text than what has been read behind it. -/
theorem Step.of_take_eq (h : Step settings groups text s token s')
    (htake : text.take s'.position = text'.take s'.position) :
    Step settings groups text' s token s' := by
  cases h with
  | blank c => exact .blank s c
  | condition body => exact .condition s body
  | operator op hmode => exact .operator s op hmode
  | left hmode hread hop hlhs => exact .left s hmode hread hop hlhs
  | unary hmode hread hop hunary hheight hnode =>
      exact .unary s hmode hread hop hunary hheight (htake ▸ hnode)
  | binary hmode hread hop hbinary hlhs hheight hnode =>
      exact .binary s hmode hread hop hbinary hlhs hheight (htake ▸ hnode)

/-- The same tokens lead to the same state in any text that begins with them. -/
theorem Reached.of_prefix (h : Reached settings groups text before s)
    (htext : textOf before <+: text) (htext' : textOf before <+: text') :
    Reached settings groups text' before s := by
  induction h with
  | initial => exact .initial
  | @snoc before s s' token hreached hstep ih =>
      have hfront : textOf before <+: textOf (before ++ [token]) := by
        rw [textOf_append]
        exact List.prefix_append _ _
      have hposition := (hreached.snoc hstep).position_eq
      refine (ih (hfront.trans htext) (hfront.trans htext')).snoc (hstep.of_take_eq ?_)
      rw [hposition, ← List.prefix_iff_eq_take.1 htext, ← List.prefix_iff_eq_take.1 htext']

/-- What has been read so far is a text of its own, read as the operand that is held when nothing
else is kept. -/
theorem readNested_textOf (h : Reached settings groups text before s)
    (htext : textOf before <+: text) (hlexed : LexedBefore [] before) (hlhs : s.lhs = some root)
    (hop : s.op = none) (hcondition : Expr.presentCondition s.condition = none) :
    readNested settings groups (textOf before) = .ok root := by
  have htokens : tokens (textOf before) = before := by
    simpa [tokens_nil] using tokens_append_of_lexedBefore hlexed
  refine readNested_eq_ok_iff.2 ⟨s, ?_, hlhs, hop, hcondition⟩
  rw [htokens]
  exact h.of_prefix htext List.prefix_rfl

/-- The first tokens of an accepted text make up a beginning of it that is cut into them. -/
theorem lexedBefore_of_prefix (h : readNested settings groups text = .ok root)
    (hpre : before <+: tokens text) : textOf before <+: text ∧ LexedBefore [] before := by
  obtain ⟨s, hreached, -⟩ := readNested_eq_ok_iff.1 h
  have hlexed := hreached.lexedBefore
  obtain ⟨after, htokens⟩ := hpre
  constructor
  · rw [← textOf_tokens text, ← htokens, textOf_append]
    exact List.prefix_append _ _
  · rw [← htokens] at hlexed
    exact (lexedBefore_append.1 hlexed).1.of_nameEnds nofun

/-- An operand by itself is a text that is read as the operand. -/
theorem readNested_operand (h : ReadsOperand settings groups token operand)
    (hlexed : token.Lexed []) : readNested settings groups token.text = .ok operand := by
  have hinitial : Reached settings groups token.text [] {} := .initial
  have hreached := hinitial.snoc (.left _ (.inl rfl) h nofun rfl)
  have htext : textOf [token] = token.text := List.append_nil token.text
  rw [← htext]
  exact readNested_textOf hreached (by simp) ⟨hlexed, trivial⟩ rfl rfl rfl

/-- More groups may be opened than are. -/
theorem readNested_mono (h : readNested settings groups text = .ok root) (hle : groups ≤ more) :
    readNested settings more text = .ok root := by
  have hsound := readNested_sound h
  refine readNested_of_within h rfl (Nat.le_trans (nesting_le_of_readNested h) hle) ?_
  unfold Operand.Within
  rw [hsound.height_eq]
  exact hsound.fits.height_le

/-! ## Parentheses in a token -/

/-- The conditions of a text are those of its tokens. -/
theorem conditionBlocks_textOf (h : ∀ token ∈ toks, token.text.WellNested) :
    conditionBlocks (textOf toks) = toks.flatMap fun token => conditionBlocks token.text := by
  induction toks with
  | nil => rfl
  | cons token toks ih =>
      obtain ⟨htoken, htoks⟩ := List.forall_mem_cons.1 h
      rw [textOf_cons, htoken.endsOutside.conditionBlocks_append, ih htoks, List.flatMap_cons]

/-- The conditions in a token of an accepted text are conditions of the text. -/
theorem conditionBlocks_subset (h : readNested settings groups text = .ok root)
    (hmem : token ∈ tokens text) : conditionBlocks token.text ⊆ conditionBlocks text := by
  obtain ⟨s, hreached, -⟩ := readNested_eq_ok_iff.1 h
  have hblocks := conditionBlocks_textOf
    (hreached.lexedBefore.wellNested_text fun _ hmem => hreached.wellNested_group hmem)
  rw [textOf_tokens] at hblocks
  rw [hblocks]
  intro block hblock
  exact List.mem_flatMap.2 ⟨token, hmem, hblock⟩

/-- The parentheses in a token are balanced over the bare text if those in its conditions are. -/
theorem Token.Lexed.balanced (h : token.Lexed rest)
    (hblocks : ∀ block ∈ conditionBlocks token.text, block.Balanced) : token.text.Balanced := by
  cases token with
  | blank c => exact (plain_blank h).balanced
  | condition body =>
      refine Expr.balanced_braced ?_
      rw [Token.text_condition, Text.conditionBlocks_condition h] at hblocks
      cases body with
      | nil => decide
      | cons c body => exact hblocks (c :: body) (List.mem_singleton_self _)
  | group body => exact Text.Balanced.group h
  | operator op => exact (plain_symbol op).balanced
  | name word => exact (plain_of_isRelationName h.1).balanced
  | openCondition _ => cases h
  | openGroup _ => cases h
  | other _ => cases h

/-- A row of balanced tokens is balanced. -/
theorem balanced_textOf (h : ∀ token ∈ toks, token.text.Balanced) : (textOf toks).Balanced := by
  induction toks with
  | nil => decide
  | cons token toks ih =>
      rw [textOf_cons]
      obtain ⟨htoken, htoks⟩ := List.forall_mem_cons.1 h
      exact htoken.append (ih htoks)

/-! ## Reading nodes back -/

/-- Every node of the tree is read from its text, in which parentheses are balanced. -/
def ReadBack (settings : Settings) (groups : Nat) (e : Expr) : Prop :=
  ∀ m ∈ e.nodes, m.source.Balanced ∧ readNested settings groups m.source = .ok ⟨m, m.height⟩

/-- What can be read back can be if more groups may be opened. -/
theorem ReadBack.mono {e : Expr} (h : ReadBack settings groups e) (hle : groups ≤ more) :
    ReadBack settings more e := by
  intro m hm
  obtain ⟨hbalanced, hread⟩ := h m hm
  exact ⟨hbalanced, readNested_mono hread hle⟩

/-- A name is read from itself. -/
theorem ReadBack.name {word : Text} (hword : isRelationName word) (hknown : settings.allows word) :
    ReadBack settings groups (.named word) := by
  intro m hm
  obtain rfl := List.mem_singleton.1 hm
  obtain ⟨hne, -⟩ := isRelationName_iff.1 hword
  have hlexed : Token.Lexed [] (.name word) := ⟨hword, nofun⟩
  exact ⟨(plain_of_isRelationName hword).balanced, readNested_operand (.name hne hknown) hlexed⟩

/-- What is read from a group is read again from its text between parentheses. -/
theorem ReadBack.grouped (h : ReadBack settings groups operand.expr)
    (hheight : operand.height = operand.expr.height) :
    ReadBack settings (groups + 1) operand.grouped.expr := by
  obtain ⟨expr, height⟩ := operand
  obtain rfl : height = expr.height := hheight
  intro m hm
  obtain rfl | hm := Expr.mem_nodes_withSource hm
  · obtain ⟨hbalanced, hread⟩ := h expr expr.mem_nodes_self
    have hne := ne_nil_of_readNested hread
    rw [Expr.source_withSource, Expr.height_withSource]
    exact ⟨hbalanced.group, readNested_operand (.group hne hread) hbalanced⟩
  · exact h.mono (Nat.le_succ groups) m hm

/-- A node that has just been built is read from the text up to the token that completed it. -/
theorem Reached.readNested_built {node : Expr} {height : Nat}
    (h : Reached settings groups text toks ((s.advance token).built ⟨node, height⟩))
    (htext : textOf toks <+: text) (hlexed : LexedBefore [] toks)
    (hsource : node.source = text.take (s.advance token).position) :
    node.source = textOf toks ∧
      readNested settings groups node.source = .ok ⟨node, node.height⟩ := by
  have hposition : (s.advance token).position = (textOf toks).length := h.position_eq
  have htake : node.source = textOf toks := by
    rw [hsource, hposition, ← List.prefix_iff_eq_take.1 htext]
  have hread := readNested_textOf h htext hlexed rfl rfl rfl
  obtain rfl : height = node.height := (readNested_sound hread).height_eq
  rw [htake]
  exact ⟨rfl, hread⟩

/-- If the nodes of the operands are read back then so are those of what a step makes of them, with
the node that it builds, if it builds one. -/
theorem Step.readBack (h : Step settings groups text s token s')
    (hs : ∀ lhs ∈ s.lhs, ReadBack settings groups lhs.expr)
    (hoperand : ∀ operand, ReadsOperand settings groups token operand →
      ReadBack settings groups operand.expr)
    (hbuilt : ∀ node height, s' = (s.advance token).built ⟨node, height⟩ →
      node.source = text.take (s.advance token).position →
      node.source.Balanced ∧ readNested settings groups node.source = .ok ⟨node, node.height⟩) :
    ∀ lhs ∈ s'.lhs, ReadBack settings groups lhs.expr := by
  intro lhs hlhs'
  cases h with
  | blank c => exact hs lhs hlhs'
  | condition body => exact hs lhs hlhs'
  | operator op hmode => exact hs lhs hlhs'
  | left hmode hread hop hlhs =>
      cases hlhs'
      exact hoperand _ hread
  | unary hmode hread hop hunary hheight hnode =>
      cases hlhs'
      have hroot := hbuilt _ _ rfl (Expr.source_of_assemble hnode)
      obtain ⟨condition, -, rfl⟩ := Expr.assemble_unary hunary hnode
      intro m hm
      obtain rfl | hm := List.mem_cons.1 hm
      · exact hroot
      · exact hoperand _ hread m hm
  | binary hmode hread hop hbinary hlhs hheight hnode =>
      cases hlhs'
      have hroot := hbuilt _ _ rfl (Expr.source_of_assemble hnode)
      intro m hm
      obtain rfl | hm | hm := (Expr.assemble_binary hbinary hnode).mem_nodes hm
      · exact hroot
      · exact hs _ hlhs m hm
      · exact hoperand _ hread m hm

/-- What is read from a token of an accepted text is read back, if what is read from groups is. -/
theorem ReadsOperand.readBack (h : ReadsOperand settings groups token operand)
    (hlexed : token.Lexed rest)
    (hblocks : ∀ block ∈ conditionBlocks token.text, block.Balanced)
    (hgroup : ∀ inner body root, groups = inner + 1 → readNested settings inner body = .ok root →
      (∀ block ∈ conditionBlocks body, block.Balanced) → ReadBack settings inner root.expr) :
    ReadBack settings groups operand.expr := by
  cases h with
  | name hne hknown => exact .name hlexed.1 hknown
  | @group inner body root hne hread =>
      have hnested := (readNested_wellNested hread).endsOutside
      rw [Token.text_group, hnested.conditionBlocks_group] at hblocks
      exact (hgroup inner body root rfl hread hblocks).grouped (readNested_sound hread).height_eq

/-- Every node is read back if the parentheses in each condition of the text are balanced. -/
theorem readBack_of_readNested (h : readNested settings groups text = .ok root)
    (hblocks : ∀ block ∈ conditionBlocks text, block.Balanced) :
    ReadBack settings groups root.expr := by
  induction groups using Nat.strongRecOn generalizing text root with
  | ind groups ih =>
      have htoken : ∀ token ∈ tokens text, ∀ block ∈ conditionBlocks token.text,
          block.Balanced := by
        intro token hmem block hblock
        exact hblocks block (conditionBlocks_subset h hmem hblock)
      obtain ⟨s, hs, hroot, -⟩ := readNested_invariant
        (P := fun before s => before <+: tokens text →
          ∀ lhs ∈ s.lhs, ReadBack settings groups lhs.expr) h
        (fun _ => nofun) fun {before s token s' _} hreached _ hlexed hstep hs hpre => by
          have hmem : token ∈ tokens text := hpre.subset (by simp)
          have hbefore := hs ((List.prefix_append before [token]).trans hpre)
          refine hstep.readBack hbefore (fun operand hread => ?_) fun node height hs' hsource => ?_
          · exact hread.readBack hlexed (htoken token hmem) fun inner body root h hread hbody =>
              ih inner (by omega) hread hbody
          · -- The text up to the token is a text of its own, with the same tokens.
            obtain ⟨hfront, hlexedFront⟩ := lexedBefore_of_prefix h hpre
            subst hs'
            obtain ⟨htake, hread⟩ :=
              (hreached.snoc hstep).readNested_built hfront hlexedFront hsource
            refine ⟨?_, hread⟩
            rw [htake]
            refine balanced_textOf fun token hmem => ?_
            obtain ⟨rest, hlexed⟩ := hlexedFront.exists_lexed hmem
            exact hlexed.balanced (htoken token (hpre.subset hmem))
      exact hs List.prefix_rfl root hroot

/-- The text of every node of a tree that has been read is read as that node, all texts in it
included, if there are no parentheses in conditions. -/
theorem read_source (settings : Settings) (text : Text) (n : Expr)
    (h : read settings text = .ok n)
    (hblocks : ∀ block ∈ conditionBlocks text, '(' ∉ block ∧ ')' ∉ block) :
    ∀ m ∈ n.nodes, read settings m.source = .ok m := by
  obtain ⟨root, hread, rfl⟩ := read_eq_ok_iff.1 h
  have hbalanced : ∀ block ∈ conditionBlocks text, block.Balanced := by
    intro block hblock
    obtain ⟨hopen, hclose⟩ := hblocks block hblock
    exact Text.balanced_iff.2 (Text.depthAfter?_of_not_mem hopen hclose)
  intro m hm
  obtain ⟨-, hsource⟩ := readBack_of_readNested hread hbalanced m hm
  exact read_eq_ok_iff.2 ⟨_, hsource, rfl⟩

/-- A chain of operators whose last operand is a group in a group. The texts of the groups leave out
the blanks in front of their closing parentheses. -/
theorem read_source_groups :
    ∃ n, read {} "R ∪ S ∩ ((σ{A = 1} T ) )".toList = .ok n ∧
      n.nodes.map Expr.source = ["R ∪ S ∩ ((σ{A = 1} T ) )".toList, "R ∪ S".toList, ['R'], ['S'],
        "((σ{A = 1} T))".toList, ['T']] ∧
      ∀ m ∈ n.nodes, read {} m.source = .ok m := by
  have hread : read {} "R ∪ S ∩ ((σ{A = 1} T ) )".toList =
      .ok (.setOp .intersect
        (.setOp .union (.named ['R']) (.named ['S']) "R ∪ S".toList)
        (.unary .select "A = 1".toList (.named ['T']) "((σ{A = 1} T))".toList)
        "R ∪ S ∩ ((σ{A = 1} T ) )".toList) := by
    rfl
  exact ⟨_, hread, rfl, read_source {} _ _ hread (by decide)⟩

/-- A group that ends in conditions that no node takes. The text of the node in it leaves them out,
and with them the parenthesis that the one in its own condition needs. -/
example : (read {} "(S θ \x7b(\x7d T \x7b)\x7d\x7b\x7d)".toList).map Expr.source =
      .ok "(S θ \x7b(\x7d T)".toList ∧
    read {} "(S θ \x7b(\x7d T)".toList = .error ⟨.unbalancedParenthesis, 0, some '(', .start⟩ :=
  ⟨rfl, rfl⟩

end Syntax

end RelQuery
