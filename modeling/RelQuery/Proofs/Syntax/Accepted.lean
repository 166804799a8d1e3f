import RelQuery.Proofs.Expr.Printed
import RelQuery.Proofs.Syntax.Step

/-!
# Texts that are accepted

What acceptance says about a text. It is well nested (`readNested_wellNested`), although the reader
looks for the end of a group over the bare text: an opening parenthesis outside conditions begins a
group that both ways of counting close at the same place (`group_of_readNested`).
-/

namespace RelQuery.Syntax

variable {settings : Settings} {groups : Nat} {text : Text} {s s' : State} {token : Token}
variable {root : Operand} {before toks : List Token} {rest : Text}

/-! ## Tokens of an accepted text -/

/-- A token that the reader may accept when `groups` groups may be opened. -/
inductive Token.Accepted (settings : Settings) (groups : Nat) : Token → Prop where
  | blank (c : Char) : Accepted settings groups (.blank c)
  | condition (body : Text) : Accepted settings groups (.condition body)
  | operator (op : Operator) : Accepted settings groups (.operator op)
  | operand {token : Token} {operand : Operand}
      (hread : ReadsOperand settings groups token operand) : Accepted settings groups token

/-- A token that makes a step is one that may be accepted. -/
theorem Step.accepted (h : Step settings groups text s token s') :
    token.Accepted settings groups := by
  cases h with
  | blank c => exact .blank c
  | condition body => exact .condition body
  | operator op _ => exact .operator op
  | left _ hread => exact .operand hread
  | unary _ hread => exact .operand hread
  | binary _ hread => exact .operand hread

/-- So are all that have been read. -/
theorem Reached.accepted (h : Reached settings groups text before s) :
    ∀ token ∈ before, token.Accepted settings groups := by
  induction h with
  | initial => simp
  | snoc _ hstep ih =>
      intro token hmem
      rcases List.mem_append.1 hmem with hmem | hmem
      · exact ih token hmem
      · rw [List.mem_singleton.1 hmem]
        exact hstep.accepted

/-- Its brace or parenthesis is closed. -/
theorem Token.Accepted.closed (h : token.Accepted settings groups) : token.Closed := by
  cases h with
  | operand hread => cases hread <;> trivial
  | _ => trivial

/-- The groups of an accepted text are accepted with one group fewer to open. -/
theorem Reached.read_group {body : Text} (h : Reached settings groups text before s)
    (hmem : .group body ∈ before) :
    ∃ inner operand, groups = inner + 1 ∧ readNested settings inner body = .ok operand := by
  cases h.accepted _ hmem with
  | operand hread =>
      cases hread with
      | group _ hread => exact ⟨_, _, rfl, hread⟩

/-- The reader has come as far as what it has read is long. -/
theorem Reached.position_eq (h : Reached settings groups text before s) :
    s.position = (textOf before).length := by
  induction h with
  | initial => rfl
  | snoc _ hstep ih => simp [hstep.position_eq, ih]

/-- What has been read once another token has been taken. -/
theorem Reached.take_advance (h : Reached settings groups text before s)
    (htext : textOf (before ++ [token]) <+: text) :
    text.take (s.advance token).position = textOf (before ++ [token]) := by
  have hposition : (s.advance token).position = (textOf (before ++ [token])).length := by
    simp [State.advance, h.position_eq]
  rw [hposition, ← List.prefix_iff_eq_take.1 htext]

/-- Closed tokens of a text are cut out of it one by one. -/
theorem lexedBefore_tokens (h : ∀ token ∈ tokens text, token.Closed) :
    LexedBefore [] (tokens text) := by
  obtain ⟨rest, htext, hlexed, hrest⟩ :=
    lexedBefore_of_tokens_eq_append (List.append_nil (tokens text)).symm h
  have hnil : textOf (tokens text) ++ [] = textOf (tokens text) ++ rest := by
    rw [← htext, List.append_nil]
    exact tokens_text text
  rwa [← List.append_cancel_left hnil] at hlexed

/-- So are those of a text that is read to its end. -/
theorem Reached.lexedBefore (h : Reached settings groups text (tokens text) s) :
    LexedBefore [] (tokens text) :=
  lexedBefore_tokens fun token hmem => (h.accepted token hmem).closed

/-- Each of the tokens is cut out in front of some text. -/
theorem LexedBefore.exists_lexed (h : LexedBefore rest toks) (hmem : token ∈ toks) :
    ∃ rest, token.Lexed rest := by
  induction toks with
  | nil => cases hmem
  | cons first toks ih =>
      rcases List.mem_cons.1 hmem with rfl | hmem
      · exact ⟨_, h.1⟩
      · exact ih h.2 hmem

/-! ## Nesting of an accepted text -/

/-- A token is well nested if what is in it is when it is a group. -/
theorem Token.Lexed.wellNested (h : token.Lexed rest)
    (hgroup : ∀ body, token = .group body → body.WellNested) : token.text.WellNested := by
  cases token with
  | blank c => exact (plain_blank h).wellNested
  | condition body => exact .condition h
  | group body => exact (hgroup body rfl).group
  | operator op => exact (plain_symbol op).wellNested
  | name word => exact (plain_of_isRelationName h.1).wellNested
  | openCondition _ => cases h
  | openGroup _ => cases h
  | other _ => cases h

/-- A row of well nested tokens is well nested. -/
theorem wellNested_textOf (h : ∀ token ∈ toks, token.text.WellNested) :
    (textOf toks).WellNested := by
  induction toks with
  | nil => exact .nil
  | cons token toks ih =>
      rw [textOf_cons]
      obtain ⟨htoken, htoks⟩ := List.forall_mem_cons.1 h
      exact htoken.append (ih htoks)

/-- Tokens that are cut out are well nested if the groups among them are. -/
theorem LexedBefore.wellNested_text (h : LexedBefore rest toks)
    (hgroup : ∀ body, .group body ∈ toks → body.WellNested) :
    ∀ token ∈ toks, token.text.WellNested := by
  intro token hmem
  obtain ⟨_, hlexed⟩ := h.exists_lexed hmem
  refine hlexed.wellNested ?_
  rintro body rfl
  exact hgroup body hmem

/-- Conditions apart, an accepted text has balanced parentheses. -/
theorem readNested_wellNested (h : readNested settings groups text = .ok root) :
    text.WellNested := by
  -- The groups of the text are accepted with fewer groups to open.
  induction groups using Nat.strongRecOn generalizing text root with
  | ind groups ih =>
      obtain ⟨s, hreached, -⟩ := readNested_eq_ok_iff.1 h
      rw [← tokens_text text]
      refine wellNested_textOf (hreached.lexedBefore.wellNested_text fun body hmem => ?_)
      obtain ⟨inner, operand, rfl, hread⟩ := hreached.read_group hmem
      exact ih inner (Nat.lt_succ_self inner) hread

/-- And groups that have been read are. -/
theorem Reached.wellNested_group {body : Text} (h : Reached settings groups text before s)
    (hmem : .group body ∈ before) : body.WellNested := by
  obtain ⟨_, _, _, hread⟩ := h.read_group hmem
  exact readNested_wellNested hread

/-- What every step preserves holds when a text has been accepted. The tokens of such a text are
complete, and what has been read is well nested after each of them. -/
theorem readNested_invariant {P : List Token → State → Prop}
    (h : readNested settings groups text = .ok root) (hinitial : P [] {})
    (hstep : ∀ {before s token s' rest}, Reached settings groups text before s →
      (textOf before).WellNested → Token.Lexed rest token → Step settings groups text s token s' →
      P before s → P (before ++ [token]) s') :
    ∃ s, P (tokens text) s ∧ s.lhs = some root ∧ s.op = none ∧
      Expr.presentCondition s.condition = none := by
  obtain ⟨s, hreached, hend⟩ := readNested_eq_ok_iff.1 h
  refine ⟨s, ?_, hend⟩
  have hlexed (token : Token) (hmem : token ∈ tokens text) : ∃ rest, token.Lexed rest :=
    hreached.lexedBefore.exists_lexed hmem
  have hnested := hreached.lexedBefore.wellNested_text fun _ hmem => hreached.wellNested_group hmem
  clear hend
  generalize tokens text = toks at hreached hlexed hnested
  induction hreached with
  | initial => exact hinitial
  | snoc hreached hnext ih =>
      obtain ⟨rest, htoken⟩ := hlexed _ (List.mem_append_right _ List.mem_cons_self)
      obtain ⟨hbefore, -⟩ := List.forall_mem_append.1 hnested
      have hs := ih (fun token hmem => hlexed token (List.mem_append_left _ hmem)) hbefore
      exact hstep hreached (wellNested_textOf hbefore) htoken hnext hs

/-! ## The token at a place -/

/-- The token that a place in a text lies in, between `inner` and `tail` of the token's text. -/
theorem exists_token_at {front : Text} (h : textOf toks = front ++ rest) (hrest : rest ≠ []) :
    ∃ before token after inner tail, toks = before ++ token :: after ∧
      front = textOf before ++ inner ∧ token.text = inner ++ tail ∧ tail ≠ [] ∧
      rest = tail ++ textOf after := by
  induction toks generalizing front with
  | nil =>
      rw [textOf_nil] at h
      exact absurd (List.append_eq_nil_iff.1 h.symm).2 hrest
  | cons token toks ih =>
      rw [textOf_cons] at h
      -- A place at the end of the token belongs to the next one.
      have hnext {more : Text} (htext : textOf toks = more ++ rest) :
          ∃ before token' after inner tail, token :: toks = before ++ token' :: after ∧
            token.text ++ more = textOf before ++ inner ∧ token'.text = inner ++ tail ∧
            tail ≠ [] ∧ rest = tail ++ textOf after := by
        obtain ⟨before, token', after, inner, tail, rfl, rfl, htoken, hne, hrest⟩ := ih htext
        exact ⟨token :: before, token', after, inner, tail, rfl, by simp, htoken, hne, hrest⟩
      rcases List.append_eq_append_iff.1 h with ⟨more, rfl, htext⟩ | ⟨more, htoken, hmore⟩
      · exact hnext htext
      · cases more with
        | nil =>
            rw [List.append_nil] at htoken
            obtain rfl := htoken
            simpa using @hnext [] hmore.symm
        | cons c more =>
            exact ⟨[], token, toks, front, c :: more, rfl, rfl, htoken, List.cons_ne_nil _ _, hmore⟩

/-- A part that a text ends in ends in its last character. -/
theorem exists_of_append_singleton {body inner left : Text} {d : Char}
    (h : body ++ [d] = inner ++ left) (hleft : left ≠ []) :
    ∃ more, body = inner ++ more ∧ left = more ++ [d] := by
  obtain ⟨more, last, rfl⟩ := (List.eq_nil_or_concat left).resolve_left hleft
  rw [List.concat_eq_append, ← List.append_assoc] at h
  obtain ⟨rfl, hlast⟩ := List.append_inj' h rfl
  cases hlast
  exact ⟨more, rfl, List.concat_eq_append⟩

/-- A place outside conditions that is not within a name is between two tokens or in a group. -/
theorem LexedBefore.exists_gap {front : Text} (h : LexedBefore [] toks)
    (hgroup : ∀ body, .group body ∈ toks → body.WellNested) (htext : textOf toks = front ++ rest)
    (hfront : front.EndsOutside) (hname : ¬ InName front rest) :
    (∃ before after, toks = before ++ after ∧ front = textOf before ∧ rest = textOf after) ∨
    ∃ before body after inner more, toks = before ++ .group body :: after ∧
      front = textOf before ++ '(' :: inner ∧ (textOf before).EndsOutside ∧
      Text.EndsOutside inner ∧ body = inner ++ more ∧ rest = more ++ ')' :: textOf after := by
  by_cases hrest : rest = []
  · subst hrest
    exact .inl ⟨toks, [], by simp, by simpa using htext.symm, rfl⟩
  obtain ⟨before, token, after, inner, left, rfl, rfl, htoken, hleft, rfl⟩ :=
    exists_token_at htext hrest
  obtain ⟨hbefore, hlexed, -⟩ := lexedBefore_append.1 h
  have hnested := wellNested_textOf (hbefore.wellNested_text fun body hmem =>
    hgroup body (List.mem_append_left _ hmem))
  have hinner : Text.EndsOutside inner := hnested.endsOutside.of_append hfront
  cases inner with
  | nil => exact .inl ⟨before, token :: after, rfl, by simp, by simp [htoken]⟩
  | cons first inner =>
      cases token with
      | group body =>
          obtain ⟨rfl, hbody⟩ := List.cons_eq_cons.1 htoken
          obtain ⟨more, rfl, rfl⟩ := exists_of_append_singleton hbody hleft
          exact .inr ⟨before, _, after, inner, more, rfl, rfl, hnested.endsOutside, hinner, rfl,
            by simp⟩
      | condition body =>
          obtain ⟨rfl, hbody⟩ := List.cons_eq_cons.1 htoken
          -- The condition has not ended before its last character.
          obtain ⟨more, rfl, -⟩ := exists_of_append_singleton hbody hleft
          have hinside : '}' ∉ inner := fun hmem => hlexed (List.mem_append_left _ hmem)
          have hends : Text.insideAfter true inner = false := hinner
          rw [Text.insideAfter_true_of_not_mem hinside] at hends
          cases hends
      | name word =>
          obtain rfl : word = (first :: inner) ++ left := htoken
          exact absurd (inName_of_append hlexed.1 (List.cons_ne_nil _ _) hleft).append hname
      | openCondition _ => cases hlexed
      | openGroup _ => cases hlexed
      | other _ => cases hlexed
      | blank b => simp [Token.text, hleft] at htoken
      | operator op => simp [Token.text, hleft] at htoken

/-- A character outside conditions that occurs in no name begins a token or stands in a group. -/
theorem LexedBefore.exists_token_outside {front tail : Text} {c : Char} (h : LexedBefore [] toks)
    (hgroup : ∀ body, .group body ∈ toks → body.WellNested)
    (htext : textOf toks = front ++ c :: tail) (hfront : front.EndsOutside)
    (hname : isNameChar c = false) (hclose : c ≠ ')') :
    (∃ before token after, toks = before ++ token :: after ∧ front = textOf before ∧
      c :: tail = token.text ++ textOf after) ∨
    ∃ before body after inner more, toks = before ++ .group body :: after ∧
      front = textOf before ++ '(' :: inner ∧ (textOf before).EndsOutside ∧
      Text.EndsOutside inner ∧ body = inner ++ c :: more ∧ tail = more ++ ')' :: textOf after := by
  have hends : NameEnds (c :: tail) := by
    simpa [NameEnds] using hname
  obtain ⟨before, after, rfl, hbefore, hafter⟩ | ⟨before, body, after, inner, more, rfl, hbefore,
    houtside, hinner, rfl, hmore⟩ := h.exists_gap hgroup htext hfront hends.not_inName
  · cases after with
    | nil => cases hafter
    | cons token after =>
        rw [textOf_cons] at hafter
        exact .inl ⟨before, token, after, rfl, hbefore, hafter⟩
  · cases more with
    | nil => exact absurd (List.cons_eq_cons.1 hmore).1 hclose
    | cons d more =>
        obtain ⟨rfl, rfl⟩ := List.cons_eq_cons.1 hmore
        exact .inr ⟨before, _, after, inner, more, rfl, hbefore, houtside, hinner, rfl, rfl⟩

/-- An opening parenthesis outside conditions begins a group, and the parentheses in the group are
balanced whether those in conditions count or not. -/
theorem group_of_readNested {front tail : Text}
    (h : readNested settings groups (front ++ '(' :: tail) = .ok root)
    (hfront : front.EndsOutside) :
    ∃ body after, tail = body ++ ')' :: after ∧ Text.Balanced body ∧ Text.WellNested body := by
  induction groups using Nat.strongRecOn generalizing front tail root with
  | ind groups ih =>
      obtain ⟨s, hreached, -⟩ := readNested_eq_ok_iff.1 h
      have hgroup : ∀ body, .group body ∈ tokens (front ++ '(' :: tail) → body.WellNested :=
        fun body hmem => hreached.wellNested_group hmem
      rcases hreached.lexedBefore.exists_token_outside hgroup (tokens_text _) hfront
          isNameChar_open (by decide) with
        ⟨before, token, after, htoks, -, htail⟩ |
        ⟨before, body, after, inner, more, htoks, -, -, hinner, rfl, rfl⟩
      · have hmem : token ∈ tokens (front ++ '(' :: tail) := by simp [htoks]
        obtain ⟨-, hlexed, -⟩ := lexedBefore_append.1 (htoks ▸ hreached.lexedBefore)
        rw [List.append_nil] at hlexed
        obtain ⟨body, rfl, rfl⟩ := hlexed.eq_group htail
        exact ⟨body, textOf after, rfl, hlexed, hgroup body hmem⟩
      · have hmem : .group (inner ++ '(' :: more) ∈
            tokens (front ++ '(' :: (more ++ ')' :: textOf after)) := by
          simp [htoks]
        obtain ⟨groups, operand, rfl, hread⟩ := hreached.read_group hmem
        obtain ⟨body, rest, rfl, hbody⟩ := ih groups (Nat.lt_succ_self groups) hread hinner
        exact ⟨body, rest ++ ')' :: textOf after, by simp, hbody⟩

end RelQuery.Syntax
