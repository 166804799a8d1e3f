import RelQuery.Proofs.Expr.Printed
import RelQuery.Proofs.Operator.Spelling
import RelQuery.Proofs.Syntax.Sources

/-!
# Symbols in what has been read

The texts in a tree that has been read are parts of the text it was read from, some of them put
between parentheses. So what passes from a text to its parts and into parentheses holds of all of
them if it holds of the text (`allTexts_of_readNested`). It is so that no word for an operator
occurs in a text: in the texts of the tree of a query, where words have been replaced before, none
does. None does in the one-line form either, because characters that occur in no word stand between
the texts there (`not_spelled_toText`); replacing words again changes nothing (`symbolize_toText`).
-/

namespace RelQuery

open Operator (Spelled Separates symbolize)

/-! ## The texts in a tree -/

namespace Expr

/-- What is said of a text holds of all texts in the tree: of the names, of the conditions and of
the texts that its nodes were read from. -/
structure AllTexts (P : Text → Prop) (e : Expr) : Prop where
  names : ∀ name ∈ e.relationNames, P name
  conditions : ∀ condition ∈ e.conditions, P condition
  sources : ∀ m ∈ e.nodes, P m.source

variable {P : Text → Prop} {op : Operator} {given : Option Text} {name condition source : Text}
variable {e lhs rhs operand : Expr}

/-- The source of a tree is one of its texts. -/
theorem AllTexts.source_root (h : e.AllTexts P) : P e.source :=
  h.sources e e.mem_nodes_self

/-- A relation has its name and its source. -/
theorem AllTexts.relation (hname : P name) (hsource : P source) :
    (Expr.relation name source).AllTexts P where
  names := by simpa [relationNames] using hname
  conditions := by simp
  sources := by simpa [nodes, Expr.source] using hsource

/-- A unary node has its condition and its source, and the texts of its operand. -/
theorem allTexts_unary : (unary op condition operand source).AllTexts P ↔
    P condition ∧ P source ∧ operand.AllTexts P := by
  constructor
  · intro h
    obtain ⟨hcondition, hconditions⟩ := List.forall_mem_cons.1 (conditions_unary ▸ h.conditions)
    obtain ⟨hsource, hsources⟩ := List.forall_mem_cons.1 h.sources
    exact ⟨hcondition, hsource, h.names, hconditions, hsources⟩
  · intro h
    obtain ⟨hcondition, hsource, hoperand⟩ := h
    refine ⟨hoperand.names, ?_, List.forall_mem_cons.2 ⟨hsource, hoperand.sources⟩⟩
    rw [conditions_unary]
    exact List.forall_mem_cons.2 ⟨hcondition, hoperand.conditions⟩

/-- The texts in a binary node are its condition if it has one, the text it was read from and those
in its operands. -/
theorem BinaryNode.allTexts_iff (h : BinaryNode op lhs rhs given e) : e.AllTexts P ↔
    (∀ condition ∈ given, P condition) ∧ P e.source ∧ lhs.AllTexts P ∧ rhs.AllTexts P := by
  have hsources : (∀ m ∈ e.nodes, P m.source) ↔
      P e.source ∧ (∀ m ∈ lhs.nodes, P m.source) ∧ ∀ m ∈ rhs.nodes, P m.source := by
    cases h <;> rw [nodes, List.forall_mem_cons, List.forall_mem_append]
  have hconditions : (∀ c ∈ e.conditions, P c) ↔
      (∀ c ∈ given, P c) ∧ (∀ c ∈ lhs.conditions, P c) ∧ ∀ c ∈ rhs.conditions, P c := by
    rw [h.conditions_eq, List.forall_mem_append, List.forall_mem_append]
    simp only [Option.mem_toList, Option.mem_def]
  have hnames : (∀ name ∈ e.relationNames, P name) ↔
      (∀ name ∈ lhs.relationNames, P name) ∧ ∀ name ∈ rhs.relationNames, P name := by
    rw [h.relationNames_eq, List.forall_mem_append]
  constructor
  · intro he
    obtain ⟨hgiven, hcl, hcr⟩ := hconditions.1 he.conditions
    obtain ⟨hsource, hsl, hsr⟩ := hsources.1 he.sources
    obtain ⟨hnl, hnr⟩ := hnames.1 he.names
    exact ⟨hgiven, hsource, ⟨hnl, hcl, hsl⟩, ⟨hnr, hcr, hsr⟩⟩
  · intro hparts
    obtain ⟨hgiven, hsource, hl, hr⟩ := hparts
    exact ⟨hnames.2 ⟨hl.names, hr.names⟩, hconditions.2 ⟨hgiven, hl.conditions, hr.conditions⟩,
      hsources.2 ⟨hsource, hl.sources, hr.sources⟩⟩

/-- A tree may get another text of the kind. -/
theorem AllTexts.withSource (h : e.AllTexts P) (hsource : P source) :
    (e.withSource source).AllTexts P where
  names := by simpa using h.names
  conditions := by simpa using h.conditions
  sources := by
    intro m hm
    obtain rfl | hm := mem_nodes_withSource hm
    · rwa [source_withSource]
    · exact h.sources m hm

end Expr

/-! ## Reading -/

namespace Syntax

/-- What holds of a text holds of its parts and of the text between parentheses. -/
structure Inherited (P : Text → Prop) : Prop where
  part : ∀ {part text : Text}, part <:+: text → P text → P part
  parenthesized : ∀ {text : Text}, P text → P (Expr.parenthesized text)

/-- What is said of a text holds of the condition that is kept and of all texts in the operand. -/
structure State.AllTexts (P : Text → Prop) (s : State) : Prop where
  lhs : ∀ operand ∈ s.lhs, operand.expr.AllTexts P
  condition : ∀ condition ∈ s.condition, P condition

variable {P : Text → Prop} {settings : Settings} {groups : Nat} {text : Text} {s s' : State}
variable {token : Token} {toks : List Token} {root operand : Operand}

/-- What holds of all pieces of a text that it holds of holds of the texts of an operand. -/
theorem ReadsOperand.allTexts (h : ReadsOperand settings groups token operand) (hP : Inherited P)
    (htoken : P token.text) (hgroup : ∀ inner body root, groups = inner + 1 → P body →
      readNested settings inner body = .ok root → root.expr.AllTexts P) :
    operand.expr.AllTexts P := by
  cases h with
  | name hne hknown => exact .relation htoken htoken
  | @group inner body root hne hread =>
      have hbody : P body := hP.part ⟨['('], [')'], rfl⟩ htoken
      have hroot := hgroup inner body root rfl hbody hread
      exact hroot.withSource (hP.parenthesized hroot.source_root)

/-- A step takes all texts out of the token or, for a node that it builds, out of the text. -/
theorem Step.allTexts (h : Step settings groups text s token s') (hP : Inherited P)
    (htext : P text) (htoken : P token.text)
    (hoperand : ∀ operand, ReadsOperand settings groups token operand → operand.expr.AllTexts P)
    (hs : s.AllTexts P) : s'.AllTexts P := by
  have hfront (n : Nat) : P (text.take n) := hP.part (List.take_prefix n text).isInfix htext
  cases h with
  | blank c => exact ⟨hs.lhs, hs.condition⟩
  | condition body =>
      refine ⟨hs.lhs, fun condition hmem => ?_⟩
      cases hmem
      exact hP.part ⟨['{'], ['}'], rfl⟩ htoken
  | operator op hmode => exact ⟨hs.lhs, hs.condition⟩
  | @left _ operand hmode hread hop hlhs =>
      refine ⟨fun held hmem => ?_, hs.condition⟩
      cases hmem
      exact hoperand operand hread
  | @unary _ operand op node hmode hread hop hunary hheight hnode =>
      refine ⟨fun held hmem => ?_, nofun⟩
      cases hmem
      obtain ⟨condition, hpresent, rfl⟩ := Expr.assemble_unary hunary hnode
      obtain ⟨hcondition, -⟩ := Expr.presentCondition_eq_some hpresent
      exact Expr.allTexts_unary.2
        ⟨hs.condition condition hcondition, hfront _, hoperand operand hread⟩
  | @binary _ lhs operand op node hmode hread hop hbinary hlhs hheight hnode =>
      refine ⟨fun held hmem => ?_, nofun⟩
      cases hmem
      refine (Expr.assemble_binary hbinary hnode).allTexts_iff.2 ⟨fun condition hpresent => ?_, ?_,
        hs.lhs lhs hlhs, hoperand operand hread⟩
      · exact hs.condition condition (Expr.presentCondition_eq_some hpresent).1
      · rw [Expr.source_of_assemble hnode]
        exact hfront _

/-- A token is a piece of the text. -/
theorem infix_of_mem_tokens (h : token ∈ tokens text) : token.text <:+: text := by
  have htext := tokens_text text
  rw [List.flatMap_def] at htext
  rw [← htext]
  exact List.infix_of_mem_flatten (List.mem_map_of_mem h)

/-- All texts in a tree that has been read are of the kind that the text is. -/
theorem allTexts_of_readNested (hP : Inherited P) (htext : P text)
    (h : readNested settings groups text = .ok root) : root.expr.AllTexts P := by
  induction groups using Nat.strongRecOn generalizing text root with
  | ind groups ih =>
      have hgroup : ∀ inner body root, groups = inner + 1 → P body →
          readNested settings inner body = .ok root → root.expr.AllTexts P := by
        intro inner body root hgroups hbody hread
        exact ih inner (by omega) hbody hread
      have htokens : ∀ token ∈ tokens text, P token.text := fun token hmem =>
        hP.part (infix_of_mem_tokens hmem) htext
      obtain ⟨s, hreached, hroot, -⟩ := readNested_eq_ok_iff.1 h
      have hs : s.AllTexts P := by
        clear hroot
        generalize tokens text = toks at hreached htokens
        induction hreached with
        | initial => exact ⟨nofun, nofun⟩
        | snoc hreached hstep ih =>
            obtain ⟨hbefore, htoken⟩ := List.forall_mem_append.1 htokens
            have htoken := htoken _ (List.mem_singleton_self _)
            exact hstep.allTexts hP htext htoken
              (fun operand hread => hread.allTexts hP htoken hgroup) (ih hbefore)
      exact hs.lhs root hroot

end Syntax

/-! ## Printing -/

namespace Expr

open Operator (spelled_append_cons_iff spelled_cons_iff not_spelled_nil separates_of_mem)

variable {given : Option Text} {text right : Text} {e operand : Expr}

/-- The characters that the one-line form puts between texts, besides symbols. -/
theorem not_spelled_parenthesized (h : ¬ Spelled text) : ¬ Spelled (parenthesized text) := by
  rw [parenthesized, List.cons_append, spelled_cons_iff (separates_of_mem (by decide)),
    spelled_append_cons_iff (separates_of_mem (by decide))]
  exact not_or.2 ⟨h, not_spelled_nil⟩

/-- Parentheses around an operand make no word. -/
theorem not_spelled_operandText (h : ¬ Spelled text) : ¬ Spelled (operandText operand text) := by
  unfold operandText
  split
  · exact h
  · exact not_spelled_parenthesized h

/-- Neither do braces around a condition. -/
theorem not_spelled_conditionText_append (hgiven : ∀ condition ∈ given, ¬ Spelled condition)
    (hright : ¬ Spelled right) : ¬ Spelled (conditionText given ++ right) := by
  cases given with
  | none => exact hright
  | some condition =>
      have htext : conditionText (some condition) ++ right =
          '{' :: (condition ++ '}' :: ' ' :: right) := by
        simp [conditionText, braced]
      rw [htext, spelled_cons_iff (separates_of_mem (by decide)),
        spelled_append_cons_iff (separates_of_mem (by decide)),
        spelled_cons_iff (separates_of_mem (by decide))]
      exact not_or.2 ⟨hgiven condition rfl, hright⟩

/-- The one-line form spells no operator in words if none of the texts in the tree does. -/
theorem not_spelled_toText (h : e.AllTexts (¬ Spelled ·)) : ¬ Spelled e.toText := by
  have hspace : Separates ' ' := separates_of_mem (by decide)
  induction e using nodeInduction with
  | relation name source => exact h.names name List.mem_cons_self
  | unary op condition operand source ih =>
      obtain ⟨hcondition, -, hoperand⟩ := allTexts_unary.1 h
      rw [toText_unary, List.append_assoc, List.cons_append, List.cons_append, List.nil_append,
        spelled_cons_iff (Operator.separates_symbol op), spelled_cons_iff hspace]
      refine not_spelled_conditionText_append (fun c hc => ?_)
        (not_spelled_operandText (ih hoperand))
      cases hc
      exact hcondition
  | binary op given lhs rhs e hnode ihl ihr =>
      obtain ⟨hgiven, -, hl, hr⟩ := hnode.allTexts_iff.1 h
      have htext : e.toText = lhs.toText ++ ' ' :: op.symbol :: ' ' ::
          (conditionText given ++ operandText rhs rhs.toText) := by
        simp [hnode.toText_eq]
      rw [htext, spelled_append_cons_iff hspace, spelled_cons_iff (Operator.separates_symbol op),
        spelled_cons_iff hspace]
      exact not_or.2 ⟨ihl hl,
        not_spelled_conditionText_append hgiven (not_spelled_operandText (ihr hr))⟩

end Expr

/-! ## Queries -/

namespace Syntax

variable {settings : Settings} {query : Text} {n : Expr}

/-- Of a query there is no word for an operator in the tree. -/
theorem allTexts_of_readQuery (h : readQuery settings query = .ok n) :
    n.AllTexts (¬ Spelled ·) := by
  obtain ⟨root, hread, rfl⟩ := read_eq_ok_iff.1 h
  have hinherited : Inherited (¬ Spelled ·) := {
    part := fun hpart htext => Operator.not_spelled_of_part htext hpart
    parenthesized := Expr.not_spelled_parenthesized }
  exact allTexts_of_readNested hinherited Operator.not_spelled_symbolize hread

/-- Replacing words by symbols changes neither the one-line form of a query's tree nor the text of
any node in the tree, so that each of these texts is read the same as a query and as an expression,
whatever the settings. -/
theorem symbolize_toText (settings : Settings) (query : Text) (n : Expr)
    (h : readQuery settings query = .ok n) :
    (symbolize n.toText = n.toText ∧
      ∀ other, readQuery other n.toText = read other n.toText) ∧
    ∀ m ∈ n.nodes, symbolize m.source = m.source ∧
      ∀ other, readQuery other m.source = read other m.source := by
  have hread {text : Text} (htext : ¬ Spelled text) : symbolize text = text ∧
      ∀ other, readQuery other text = read other text := by
    have hsame := Operator.symbolize_of_not_spelled htext
    exact ⟨hsame, fun other => by rw [readQuery, hsame]⟩
  have htexts := allTexts_of_readQuery h
  exact ⟨hread (Expr.not_spelled_toText htexts), fun m hm => hread (htexts.sources m hm)⟩

/-- Beginnings of words stand beside their ends in the one-line form, but for what the printer puts
between them. -/
theorem symbolize_toText_beginnings :
    let n : Expr := .conditionalJoin .thetaJoin "ion".toList (.named "un".toList)
      (.setOp .intersect (.named "mi".toList) (.named "nus".toList) "(mi ∩ nus)".toList)
      "un θ{ion}(mi ∩ nus)".toList
    readQuery {} "un thetajoin_{ion}(mi INTERSECT nus)".toList = .ok n ∧
      n.toText = "un θ {ion} (mi ∩ nus)".toList ∧ symbolize n.toText = n.toText ∧
      ∀ m ∈ n.nodes, symbolize m.source = m.source := by
  intro n
  have hread : readQuery {} "un thetajoin_{ion}(mi INTERSECT nus)".toList = .ok n := by
    decide +kernel
  obtain ⟨⟨htext, -⟩, hsources⟩ := symbolize_toText {} _ n hread
  exact ⟨hread, rfl, htext, fun m hm => (hsources m hm).1⟩

end Syntax

end RelQuery
