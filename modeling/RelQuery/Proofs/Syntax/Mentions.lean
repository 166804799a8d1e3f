import RelQuery.Proofs.Syntax.Known
import RelQuery.Proofs.Syntax.Sound
import RelQuery.Proofs.Text.Runs

/-!
# The relations that a text mentions

Conditions apart, the names in a text are its maximal runs of name characters (`nameRuns`). No token
goes on in the next one, so that they are the names in its tokens one after the other
(`LexedBefore.nameRuns_textOf`), and reading keeps them all in this order: `read_wellFormed` says
that a tree that has been read is well formed and that its relations are the names in the text.
-/

namespace RelQuery

/-- The names in a text, from left to right: its maximal runs of name characters outside
conditions. -/
def Text.nameRuns (text : Text) : List Text :=
  text.covered.runs isNameChar

namespace Syntax

variable {settings : Settings} {groups : Nat} {text : Text} {s s' : State} {token : Token}
variable {rest : Text} {before toks : List Token} {operand root : Operand}

/-! ## The names in one token -/

/-- No name runs in the empty text. -/
theorem nameRuns_nil : Text.nameRuns [] = [] :=
  Text.runs_nil

/-- Names between parentheses are the names between them. -/
theorem nameRuns_group {body : Text} (h : body.EndsOutside) :
    Text.nameRuns ('(' :: body ++ [')']) = body.nameRuns := by
  have hopen : Text.EndsOutside ['('] := rfl
  have hcovered : Text.covered (['('] ++ (body ++ [')'])) = '(' :: body.covered ++ [')'] := by
    rw [hopen.covered_append, h.covered_append]
    rfl
  rw [Text.nameRuns, List.cons_append, ← List.singleton_append, hcovered,
    Text.runs_append_singleton isNameChar_close, Text.runs_cons isNameChar_open, Text.nameRuns]

/-- A name is one run. -/
theorem nameRuns_name {word : Text} (h : isRelationName word) : word.nameRuns = [word] := by
  obtain ⟨hne, hall⟩ := isRelationName_iff.1 h
  rw [Text.nameRuns, Text.covered_of_not_mem (plain_of_isRelationName h).brace_not_mem,
    Text.runs_eq_singleton hne hall]

/-- There are no names in a token that is no operand. -/
theorem Token.Lexed.nameRuns_eq_nil (h : token.Lexed rest) (hoperand : token.isOperand = false) :
    token.text.nameRuns = [] := by
  cases token with
  | blank c =>
      rw [Text.nameRuns, Token.text_blank, Text.covered_of_not_mem (plain_blank h).brace_not_mem]
      exact Text.runs_eq_nil (List.forall_mem_singleton.2 (isNameChar_of_isBlank h))
  | condition body =>
      rw [Text.nameRuns, Token.text_condition, Text.covered_condition h]
      refine Text.runs_eq_nil fun c hc => ?_
      rw [List.eq_of_mem_replicate hc]
      exact isNameChar_space
  | operator op =>
      rw [Text.nameRuns, Token.text_operator,
        Text.covered_of_not_mem (plain_symbol op).brace_not_mem]
      exact Text.runs_eq_nil (List.forall_mem_singleton.2 (isNameChar_symbol op))
  | name word => cases hoperand
  | group body => cases hoperand
  | openCondition _ => cases h
  | openGroup _ => cases h
  | other _ => cases h

/-- No name goes on behind the token. -/
theorem Token.Lexed.nameRuns_append (h : token.Lexed rest) (hnested : token.text.EndsOutside) :
    (token.text ++ rest).nameRuns = token.text.nameRuns ++ rest.nameRuns := by
  have hlast {c : Char} (htext : token.text.getLast? = some c) (hc : isNameChar c = false) :
      (token.text ++ rest).nameRuns = token.text.nameRuns ++ rest.nameRuns := by
    refine Text.runs_covered_append isNameChar_space hnested ?_
    rw [htext]
    rintro _ ⟨⟩
    exact hc
  cases token with
  | blank c => exact hlast rfl (isNameChar_of_isBlank h)
  | condition body => exact hlast List.getLast?_concat isNameChar_closeBrace
  | group body => exact hlast List.getLast?_concat isNameChar_close
  | operator op => exact hlast rfl (isNameChar_symbol op)
  | name word => exact Text.runs_covered_append_of_head isNameChar_space hnested h.2
  | openCondition _ => cases h
  | openGroup _ => cases h
  | other _ => cases h

/-! ## The names in many tokens -/

/-- The runs of a text are those of its tokens, since a name ends with its token. -/
theorem LexedBefore.nameRuns_textOf (h : LexedBefore rest toks)
    (hnested : ∀ token ∈ toks, token.text.WellNested) :
    (textOf toks ++ rest).nameRuns =
      (toks.flatMap fun token => token.text.nameRuns) ++ rest.nameRuns := by
  induction toks with
  | nil => rfl
  | cons token toks ih =>
      obtain ⟨htoken, htoks⟩ := List.forall_mem_cons.1 hnested
      rw [textOf_cons, List.append_assoc, h.1.nameRuns_append htoken.endsOutside, ih h.2 htoks,
        List.flatMap_cons, List.append_assoc]

/-- The names in an accepted text are those in its tokens. -/
theorem nameRuns_of_readNested (h : readNested settings groups text = .ok root) :
    text.nameRuns = (tokens text).flatMap fun token => token.text.nameRuns := by
  obtain ⟨s, hreached, -⟩ := readNested_eq_ok_iff.1 h
  have hruns := hreached.lexedBefore.nameRuns_textOf
    (hreached.lexedBefore.wellNested_text fun _ hmem => hreached.wellNested_group hmem)
  rwa [List.append_nil, textOf_tokens, nameRuns_nil, List.append_nil] at hruns

/-- The relations in an operand are the names in its token, if this is so for groups. -/
theorem ReadsOperand.relationNames_eq (h : ReadsOperand settings groups token operand)
    (hlexed : token.Lexed rest)
    (hgroup : ∀ inner body root, groups = inner + 1 → readNested settings inner body = .ok root →
      root.expr.relationNames = body.nameRuns) :
    operand.expr.relationNames = token.text.nameRuns := by
  cases h with
  | name hne hknown => exact (nameRuns_name hlexed.1).symm
  | @group inner body root hne hread =>
      have hnested := (readNested_wellNested hread).endsOutside
      rw [Token.text_group, nameRuns_group hnested, ← hgroup inner body root rfl hread]
      simp [Operand.grouped]

/-- A step adds the names in its token. -/
theorem Step.relationNames_eq (h : Step settings groups text s token s') (hs : s.BetweenTokens)
    (hlexed : token.Lexed rest)
    (hgroup : ∀ inner body root, groups = inner + 1 → readNested settings inner body = .ok root →
      root.expr.relationNames = body.nameRuns) :
    s'.relationNames = s.relationNames ++ token.text.nameRuns := by
  rcases h.relationNames_cases hs with ⟨operand, hread, -, hnames⟩ | ⟨hoperand, hnames⟩
  · rw [hnames, hread.relationNames_eq hlexed hgroup]
  · rw [hnames, hlexed.nameRuns_eq_nil hoperand, List.append_nil]

/-- The relations in a tree are the names in the text that it is read from. -/
theorem relationNames_of_readNested (h : readNested settings groups text = .ok root) :
    root.expr.relationNames = text.nameRuns := by
  induction groups using Nat.strongRecOn generalizing text root with
  | ind groups ih =>
      obtain ⟨s, hs, hroot, -⟩ := readNested_invariant
        (P := fun before s => s.relationNames = before.flatMap fun token => token.text.nameRuns) h
        rfl fun hreached _ hlexed hstep hs => by
          rw [hstep.relationNames_eq hreached.betweenTokens hlexed fun inner body root h hread =>
            ih inner (by omega) hread, hs]
          simp
      rw [nameRuns_of_readNested h, ← hs]
      simp [State.relationNames, hroot]

/-- A tree that has been read is well formed. Its operators fit their nodes, its conditions have
something in them and no closing brace, and its relations are the names in the text from left to
right: none is lost, repeated or moved. -/
theorem read_wellFormed (settings : Settings) (text : Text) (n : Expr)
    (h : read settings text = .ok n) :
    n.WellFormed ∧ (∀ condition ∈ n.conditions, condition ≠ [] ∧ '}' ∉ condition) ∧
      (∀ name ∈ n.relationNames, name ≠ [] ∧ ∀ c ∈ name, isNameChar c) ∧
      n.relationNames = text.nameRuns := by
  obtain ⟨root, hread, rfl⟩ := read_eq_ok_iff.1 h
  have hprintable := (readNested_sound hread).fits.printable
  have hnames : ∀ name ∈ root.expr.relationNames, name ≠ [] ∧ ∀ c ∈ name, isNameChar c := by
    intro name hmem
    exact isRelationName_iff.1 (hprintable.names name hmem)
  exact ⟨hprintable.wellFormed, hprintable.conditions, hnames, relationNames_of_readNested hread⟩

/-- Conditions with names in them, one of them right behind a relation, and relations in a group. -/
theorem read_wellFormed_join_select :
    ∃ n, read {} "Rθ{A = B}(σ{C}S ∪ T1)".toList = .ok n ∧
      n.operators = [.thetaJoin, .union, .select] ∧
      n.conditions = ["A = B".toList, ['C']] ∧
      n.relationNames = [['R'], ['S'], ['T', '1']] ∧ n.WellFormed ∧
      n.relationNames = Text.nameRuns "Rθ{A = B}(σ{C}S ∪ T1)".toList := by
  have hread : read {} "Rθ{A = B}(σ{C}S ∪ T1)".toList =
      .ok (.conditionalJoin .thetaJoin "A = B".toList (.named ['R'])
        (.setOp .union (.unary .select ['C'] (.named ['S']) "σ{C}S".toList) (.named ['T', '1'])
          "(σ{C}S ∪ T1)".toList)
        "Rθ{A = B}(σ{C}S ∪ T1)".toList) := by
    rfl
  obtain ⟨hwellFormed, -, -, hnames⟩ := read_wellFormed {} _ _ hread
  exact ⟨_, hread, rfl, rfl, rfl, hwellFormed, hnames⟩

end Syntax

end RelQuery
