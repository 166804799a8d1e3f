import RelQuery.Syntax.Token
import RelQuery.Proofs.Text.Nesting

/-!
# Cutting a text into tokens

`Token.Lexed rest token` says that the token is cut from its own text when `rest` follows, and
`LexedBefore` says this of all tokens of a list: then the list is what the texts of its tokens are
cut into (`tokens_append_of_lexedBefore`), and the tokens of a text are such a list as far as they
are closed (`lexedBefore_of_tokens_eq_append`). A token that ends with the text because a brace or a
parenthesis is missing, or that begins nothing, is not `Closed`.
-/

namespace RelQuery

/-- None of the blank characters is a letter or a digit. -/
theorem Text.not_alphanumeric_of_blank_code :
    ∀ code ∈ [0x9, 0xA, 0xB, 0xC, 0xD, 0x20, 0x85, 0xA0, 0x1680, 0x2000, 0x2001, 0x2002, 0x2003,
      0x2004, 0x2005, 0x2006, 0x2007, 0x2008, 0x2009, 0x200A, 0x2028, 0x2029, 0x202F, 0x205F,
      0x3000], code < 0x10000 ∧ Text.inRanges code Text.alphanumericBasic = false := by
  decide +kernel

/-- A blank is neither a letter nor a numeral. -/
theorem Text.isAlphanumeric_of_isBlank {c : Char} (h : isBlank c) : isAlphanumeric c = false := by
  obtain ⟨hlt, hranges⟩ := not_alphanumeric_of_blank_code c.toNat (by
    simp only [isBlank, Bool.or_eq_true, Bool.and_eq_true, decide_eq_true_eq, beq_iff_eq] at h
    simp only [List.mem_cons, List.not_mem_nil, or_false]
    omega)
  simp [isAlphanumeric, hlt, hranges]

/-- A blank occurs in no name. -/
theorem isNameChar_of_isBlank {c : Char} (h : Text.isBlank c) : isNameChar c = false := by
  simp [isNameChar, Text.isAlphanumeric_of_isBlank h]

/-- A character of a name is no blank. -/
theorem isBlank_of_isNameChar {c : Char} (h : isNameChar c) : Text.isBlank c = false := by
  cases hblank : Text.isBlank c with
  | false => rfl
  | true =>
      rw [isNameChar_of_isBlank hblank] at h
      cases h

/-- An opening parenthesis stands in no name. -/
theorem isNameChar_open : isNameChar '(' = false := by
  decide +kernel

/-- Neither does a closing one. -/
theorem isNameChar_close : isNameChar ')' = false := by
  decide +kernel

/-- Neither does an opening brace. -/
theorem isNameChar_brace : isNameChar '{' = false := by
  decide +kernel

/-- Neither does a closing brace. -/
theorem isNameChar_closeBrace : isNameChar '}' = false := by
  decide +kernel

/-- Neither does a space. -/
theorem isNameChar_space : isNameChar ' ' = false :=
  isNameChar_of_isBlank rfl

/-- No operator symbol stands in a name. -/
theorem isNameChar_symbol (op : Operator) : isNameChar op.symbol = false := by
  simp [isNameChar, Operator.ofSymbol?_symbol]

/-- A character of a name is no operator symbol. -/
theorem ofSymbol?_of_isNameChar {c : Char} (h : isNameChar c) : Operator.ofSymbol? c = none := by
  simp only [isNameChar, Bool.and_eq_true, Option.isNone_iff_eq_none] at h
  exact h.2

/-- A relation name has at least one character, and all of them may stand in names. -/
theorem isRelationName_iff {name : Text} :
    isRelationName name ↔ name ≠ [] ∧ ∀ c ∈ name, isNameChar c := by
  simp [isRelationName]

/-- A character that is no name character occurs in no relation name. -/
theorem not_mem_of_isRelationName {name : Text} {c : Char} (h : isRelationName name)
    (hc : isNameChar c = false) : c ∉ name := by
  intro hmem
  rw [(isRelationName_iff.1 h).2 c hmem] at hc
  cases hc

/-- No parenthesis and no brace stands in a relation name. -/
theorem plain_of_isRelationName {name : Text} (h : isRelationName name) : name.Plain where
  open_not_mem := not_mem_of_isRelationName h isNameChar_open
  close_not_mem := not_mem_of_isRelationName h isNameChar_close
  brace_not_mem := not_mem_of_isRelationName h isNameChar_brace

/-- An operator symbol is plain text. -/
theorem plain_symbol (op : Operator) : Text.Plain [op.symbol] where
  open_not_mem := by cases op <;> decide
  close_not_mem := by cases op <;> decide
  brace_not_mem := by cases op <;> decide

/-- So is a blank. -/
theorem plain_blank {c : Char} (h : Text.isBlank c) : Text.Plain [c] := by
  have hc (d : Char) (hd : Text.isBlank d = false) : d ∉ [c] := by
    intro hmem
    rw [List.mem_singleton.1 hmem, h] at hd
    cases hd
  exact ⟨hc '(' rfl, hc ')' rfl, hc '{' rfl⟩

namespace Syntax

/-- A name that stands in front of the text goes no further. -/
def NameEnds (text : Text) : Prop :=
  ∀ c ∈ text.head?, isNameChar c = false

/-- Two texts meet within a name. -/
def InName (left right : Text) : Prop :=
  (∃ c ∈ left.getLast?, isNameChar c) ∧ ∃ c ∈ right.head?, isNameChar c

/-- The token is cut from its own text when `rest` follows. -/
def Token.Lexed (rest : Text) : Token → Prop
  | .blank c => Text.isBlank c
  | .condition body => '}' ∉ body
  | .openCondition _ => False
  | .group body => body.Balanced
  | .openGroup _ => False
  | .operator _ => True
  | .name word => isRelationName word ∧ NameEnds rest
  | .other _ => False

/-- The token is complete: no brace or parenthesis is missing and its first character may begin
a token. -/
def Token.Closed : Token → Prop
  | .openCondition _ | .openGroup _ | .other _ => False
  | _ => True

/-- The texts of tokens one after the other. -/
def textOf (tokens : List Token) : Text :=
  tokens.flatMap Token.text

/-- Every token of the list is cut from its own text when the others and `rest` follow. -/
def LexedBefore (rest : Text) : List Token → Prop
  | [] => True
  | token :: tokens => token.Lexed (textOf tokens ++ rest) ∧ LexedBefore rest tokens

namespace Token

variable {c : Char} {body : Text} {op : Operator}

/-- A blank is the character itself. -/
@[simp] theorem text_blank : (blank c).text = [c] := rfl

/-- A condition is written between braces. -/
@[simp] theorem text_condition : (condition body).text = '{' :: body ++ ['}'] := rfl

/-- A group is written between parentheses. -/
@[simp] theorem text_group : (group body).text = '(' :: body ++ [')'] := rfl

/-- An operator is written as its symbol. -/
@[simp] theorem text_operator : (operator op).text = [op.symbol] := rfl

/-- A name is written as it is. -/
@[simp] theorem text_name : (name body).text = body := rfl

end Token

/-- No tokens have no text. -/
@[simp] theorem textOf_nil : textOf [] = [] := rfl

/-- The text of the first token comes first. -/
@[simp] theorem textOf_cons (token : Token) (tokens : List Token) :
    textOf (token :: tokens) = token.text ++ textOf tokens := by
  simp [textOf]

/-- The texts of two rows of tokens follow one another. -/
@[simp] theorem textOf_append (left right : List Token) :
    textOf (left ++ right) = textOf left ++ textOf right := by
  simp [textOf]

/-- The tokens of a text make up that text, with nothing left out. -/
@[simp] theorem textOf_tokens (text : Text) : textOf (tokens text) = text :=
  tokens_text text

/-- Every token of a text has a character at least. -/
theorem text_ne_nil_of_mem_tokens {token : Token} {text : Text} (h : token ∈ tokens text) :
    token.text ≠ [] := by
  have hfrom (skip : Nat) (text : Text) (h : token ∈ tokensFrom skip text) : token.text ≠ [] := by
    induction text generalizing skip with
    | nil => simp [tokensFrom] at h
    | cons c text ih =>
        cases skip with
        | zero =>
            rcases List.mem_cons.1 h with rfl | hmem
            · exact Token.text_first_ne_nil c text
            · exact ih _ hmem
        | succ skip => exact ih skip h
  exact hfrom 0 text h

/-- No token of a text is longer than the text. -/
theorem length_text_le {token : Token} {text : Text} (h : token ∈ tokens text) :
    token.text.length ≤ text.length := by
  obtain ⟨before, after, htokens⟩ := List.append_of_mem h
  have htext := textOf_tokens text
  rw [htokens, textOf_append, textOf_cons] at htext
  rw [← htext, List.length_append, List.length_append]
  omega

/-! ## Groups -/

namespace Token

variable {depth : Nat} {c : Char} {text body after : Text}

/-- Prepends a character to the body of a group. -/
theorem map_cons_eq_some_iff {found : Option (Text × Text)} :
    (found.map fun (body, after) => (c :: body, after)) = some (body, after) ↔
      ∃ inner, body = c :: inner ∧ found = some (inner, after) := by
  cases found with
  | none => simp
  | some found =>
      constructor
      · intro h
        cases h
        exact ⟨_, rfl, rfl⟩
      · rintro ⟨inner, rfl, h⟩
        cases h
        rfl

/-- Within a group an opening parenthesis has to be closed before the group is. -/
theorem closeGroup?_open : closeGroup? depth ('(' :: text) = some (body, after) ↔
    ∃ inner, body = '(' :: inner ∧ closeGroup? (depth + 1) text = some (inner, after) := by
  rw [← map_cons_eq_some_iff]
  simp [closeGroup?]

/-- The parenthesis that closes the group ends it. -/
theorem closeGroup?_close_zero : closeGroup? 0 (')' :: text) = some ([], text) := by
  simp [closeGroup?]

/-- A closing parenthesis that closes one within the group does not end the group. -/
theorem closeGroup?_close_succ : closeGroup? (depth + 1) (')' :: text) = some (body, after) ↔
    ∃ inner, body = ')' :: inner ∧ closeGroup? depth text = some (inner, after) := by
  rw [← map_cons_eq_some_iff]
  simp [closeGroup?]

/-- Other characters belong to the group. -/
theorem closeGroup?_cons_of_ne (hopen : c ≠ '(') (hclose : c ≠ ')') :
    closeGroup? depth (c :: text) = some (body, after) ↔
      ∃ inner, body = c :: inner ∧ closeGroup? depth text = some (inner, after) := by
  rw [← map_cons_eq_some_iff]
  simp [closeGroup?, hopen, hclose]

/-- A group reaches to the first parenthesis that closes more than has been opened. -/
theorem closeGroup?_eq_some_iff : closeGroup? depth text = some (body, after) ↔
    text = body ++ ')' :: after ∧ Text.depthAfter? depth body = some 0 := by
  refine ⟨fun h => ⟨closeGroup?_eq_some h, ?_⟩, ?_⟩
  -- One direction follows the reader through the text, the other one the body of the group.
  · induction text generalizing depth body with
    | nil => simp [closeGroup?] at h
    | cons c text ih =>
        rcases Text.parenthesis_cases c with rfl | rfl | ⟨hopen, hclose⟩
        · obtain ⟨inner, rfl, hinner⟩ := closeGroup?_open.1 h
          rw [Text.depthAfter?_open, ih hinner]
        · cases depth with
          | zero =>
              rw [closeGroup?_close_zero] at h
              cases h
              rfl
          | succ depth =>
              obtain ⟨inner, rfl, hinner⟩ := closeGroup?_close_succ.1 h
              rw [Text.depthAfter?_close_succ, ih hinner]
        · obtain ⟨inner, rfl, hinner⟩ := (closeGroup?_cons_of_ne hopen hclose).1 h
          rw [Text.depthAfter?_cons_of_ne hopen hclose, ih hinner]
  · rintro ⟨rfl, h⟩
    induction body generalizing depth with
    | nil =>
        cases h
        exact closeGroup?_close_zero
    | cons c body ih =>
        rcases Text.parenthesis_cases c with rfl | rfl | ⟨hopen, hclose⟩
        · rw [Text.depthAfter?_open] at h
          exact closeGroup?_open.2 ⟨body, rfl, ih h⟩
        · cases depth with
          | zero => simp [Text.depthAfter?_close_zero] at h
          | succ depth =>
              rw [Text.depthAfter?_close_succ] at h
              exact closeGroup?_close_succ.2 ⟨body, rfl, ih h⟩
        · rw [Text.depthAfter?_cons_of_ne hopen hclose] at h
          exact (closeGroup?_cons_of_ne hopen hclose).2 ⟨body, rfl, ih h⟩

end Token

/-! ## One token -/

/-- An empty text has no tokens. -/
theorem tokens_nil : tokens [] = [] := rfl

/-- The first token of a text is cut from the beginning, the others from what is left. -/
theorem tokens_cons (c : Char) (text : Text) :
    tokens (c :: text) = Token.first c text ::
      tokens ((c :: text).drop (Token.first c text).text.length) := by
  obtain ⟨d, tail, htext⟩ := List.exists_cons_of_ne_nil (Token.text_first_ne_nil c text)
  simp only [tokens, tokensFrom]
  rw [tokensFrom_eq_tokens_drop, htext]
  simp [tokens]

/-- A text cut behind its first token. -/
theorem tokens_eq_cons {c : Char} {text rest : Text}
    (h : c :: text = (Token.first c text).text ++ rest) :
    tokens (c :: text) = Token.first c text :: tokens rest := by
  have hdrop := congrArg (List.drop (Token.first c text).text.length) h
  rw [List.drop_left] at hdrop
  rw [tokens_cons, hdrop]

/-- A name ends where no character of names follows. -/
theorem takeWhile_append_of_nameEnds {word rest : Text} (hword : ∀ c ∈ word, isNameChar c)
    (hrest : NameEnds rest) : (word ++ rest).takeWhile isNameChar = word := by
  rw [List.takeWhile_append_of_pos hword]
  cases rest with
  | nil => simp
  | cons c rest => simp [hrest c rfl]

/-- A longest run of name characters ends where it is cut off. -/
theorem nameEnds_drop_takeWhile (text : Text) :
    NameEnds (text.drop (text.takeWhile isNameChar).length) := by
  induction text with
  | nil => simp [NameEnds]
  | cons c text ih =>
      by_cases hc : isNameChar c
      · simpa [hc] using ih
      · simp [NameEnds, hc]

/-- A condition goes up to the first closing brace. -/
theorem Token.first_condition {text body rest : Text} (h : Text.cut? '}' text = some (body, rest)) :
    Token.first '{' text = condition body := by
  simp [Token.first, show Text.isBlank '{' = false by decide, h]

/-- A group goes up to the parenthesis that closes it. -/
theorem Token.first_group {text body rest : Text} (h : closeGroup? 0 text = some (body, rest)) :
    Token.first '(' text = group body := by
  simp [Token.first, show Text.isBlank '(' = false by decide, h]

/-- The first token of a text that begins with a token where that token is cut. -/
theorem Token.first_of_lexed {token : Token} {c : Char} {text rest : Text}
    (h : token.Lexed rest) (htext : c :: text = token.text ++ rest) :
    Token.first c text = token := by
  cases token with
  | blank b =>
      obtain ⟨rfl, rfl⟩ := List.cons_eq_cons.1 htext
      exact if_pos h
  | condition body =>
      obtain ⟨rfl, rfl⟩ := List.cons_eq_cons.1 htext
      exact first_condition (Text.cut?_eq_some_iff.2 ⟨List.append_assoc body _ rest, h⟩)
  | group body =>
      obtain ⟨rfl, rfl⟩ := List.cons_eq_cons.1 htext
      exact first_group
        (closeGroup?_eq_some_iff.2 ⟨List.append_assoc body _ rest, Text.balanced_iff.1 h⟩)
  | operator op =>
      obtain ⟨rfl, rfl⟩ := List.cons_eq_cons.1 htext
      have hblank : Text.isBlank op.symbol = false := by cases op <;> decide
      have hbrace : op.symbol ≠ '{' := by cases op <;> decide
      have hopen : op.symbol ≠ '(' := by cases op <;> decide
      simp [Token.first, hblank, hbrace, hopen, Operator.ofSymbol?_symbol]
  | name word =>
      obtain ⟨hword, hends⟩ := h
      obtain ⟨hne, hall⟩ := isRelationName_iff.1 hword
      obtain ⟨b, word, rfl⟩ := List.exists_cons_of_ne_nil hne
      obtain ⟨rfl, rfl⟩ := List.cons_eq_cons.1 htext
      have hc : isNameChar c := hall c (by simp)
      have hbrace : c ≠ '{' := by
        rintro rfl
        rw [isNameChar_brace] at hc
        cases hc
      have hopen : c ≠ '(' := by
        rintro rfl
        rw [isNameChar_open] at hc
        cases hc
      have hrun : (word ++ rest).takeWhile isNameChar = word :=
        takeWhile_append_of_nameEnds (fun d hd => hall d (by simp [hd])) hends
      simp [Token.first, isBlank_of_isNameChar hc, hbrace, hopen, ofSymbol?_of_isNameChar hc, hc,
        hrun]
  | openCondition _ => cases h
  | openGroup _ => cases h
  | other _ => cases h

/-- A complete token that begins with an opening brace is a condition. -/
theorem Token.Lexed.eq_condition {token : Token} {text rest : Text} (h : token.Lexed rest)
    (htext : '{' :: text = token.text ++ rest) :
    ∃ body, token = .condition body ∧ text = body ++ '}' :: rest := by
  have hfirst := Token.first_of_lexed h htext
  cases hcut : Text.cut? '}' text with
  | none =>
      have hopen : Token.first '{' text = .openCondition text := by
        simp [Token.first, show Text.isBlank '{' = false by decide, hcut]
      rw [← hfirst, hopen] at h
      cases h
  | some cut =>
      rw [Token.first_condition hcut] at hfirst
      subst hfirst
      exact ⟨_, rfl, by simpa using htext⟩

/-- A complete token that begins with an opening parenthesis is a group. -/
theorem Token.Lexed.eq_group {token : Token} {text rest : Text} (h : token.Lexed rest)
    (htext : '(' :: text = token.text ++ rest) :
    ∃ body, token = .group body ∧ text = body ++ ')' :: rest := by
  have hfirst := Token.first_of_lexed h htext
  cases hclose : Token.closeGroup? 0 text with
  | none =>
      have hopen : Token.first '(' text = .openGroup text := by
        simp [Token.first, show Text.isBlank '(' = false by decide, hclose]
      rw [← hfirst, hopen] at h
      cases h
  | some cut =>
      rw [Token.first_group hclose] at hfirst
      subst hfirst
      exact ⟨_, rfl, by simpa using htext⟩

/-- A first token that is closed is cut from the text. -/
theorem Token.lexed_first {c : Char} {text : Text} (h : (Token.first c text).Closed) :
    (Token.first c text).Lexed ((c :: text).drop (Token.first c text).text.length) := by
  by_cases hblank : Text.isBlank c
  · simp [Token.first, hblank, Token.Lexed]
  by_cases hbrace : c = '{'
  · subst hbrace
    cases hcut : Text.cut? '}' text with
    | none => simp [Token.first, hblank, hcut, Token.Closed] at h
    | some cut =>
        rw [first_condition hcut]
        exact (Text.cut?_eq_some_iff.1 hcut).2
  by_cases hopen : c = '('
  · subst hopen
    cases hclose : closeGroup? 0 text with
    | none => simp [Token.first, hblank, hclose, Token.Closed] at h
    | some cut =>
        rw [first_group hclose]
        exact Text.balanced_iff.2 (closeGroup?_eq_some_iff.1 hclose).2
  cases hop : Operator.ofSymbol? c with
  | some op => simp [Token.first, hblank, hbrace, hopen, hop, Token.Lexed]
  | none =>
      by_cases hname : isNameChar c
      · simp only [Token.first, hblank, hbrace, hopen, hop, hname, if_true, if_false, Token.Lexed,
          Bool.false_eq_true]
        refine ⟨isRelationName_iff.2 ⟨List.cons_ne_nil _ _, ?_⟩, ?_⟩
        · intro d hd
          rcases List.mem_cons.1 hd with rfl | hd
          · exact hname
          · exact List.all_eq_true.1 List.all_takeWhile d hd
        · simpa [Token.text] using nameEnds_drop_takeWhile text
      · simp [Token.first, hblank, hbrace, hopen, hop, hname, Token.Closed] at h

/-- No token is empty. -/
theorem Token.Lexed.text_ne_nil {token : Token} {rest : Text} (h : token.Lexed rest) :
    token.text ≠ [] := by
  cases token with
  | name word => exact (isRelationName_iff.1 h.1).1
  | openCondition _ => cases h
  | openGroup _ => cases h
  | other _ => cases h
  | _ => simp [Token.text]

/-- Where a token is cut it comes first and the text behind it is cut by itself. -/
theorem tokens_append_of_lexed {token : Token} {rest : Text} (h : token.Lexed rest) :
    tokens (token.text ++ rest) = token :: tokens rest := by
  obtain ⟨c, text, htext⟩ := List.exists_cons_of_ne_nil h.text_ne_nil
  have hfirst : Token.first c (text ++ rest) = token := by
    apply Token.first_of_lexed h
    rw [htext, List.cons_append]
  rw [htext, List.cons_append, tokens_eq_cons (by rw [hfirst, htext, List.cons_append]), hfirst]

/-- A closed token that comes first is cut from the beginning of the text. -/
theorem lexed_of_tokens_eq_cons {token : Token} {toks : List Token} {text : Text}
    (h : tokens text = token :: toks) (hclosed : token.Closed) :
    ∃ rest, text = token.text ++ rest ∧ token.Lexed rest ∧ tokens rest = toks := by
  cases text with
  | nil => cases h
  | cons c text =>
      rw [tokens_cons] at h
      obtain ⟨rfl, rfl⟩ := List.cons_eq_cons.1 h
      exact ⟨_, (Token.first_text_append c text).symm, Token.lexed_first hclosed, rfl⟩

/-! ## Many tokens -/

/-- A row of tokens is one that a text is cut into if its first part is, in front of the text of the
second, and the second is. -/
theorem lexedBefore_append {left right : List Token} {rest : Text} :
    LexedBefore rest (left ++ right) ↔
      LexedBefore (textOf right ++ rest) left ∧ LexedBefore rest right := by
  induction left with
  | nil => simp [LexedBefore]
  | cons token left ih => simp [LexedBefore, ih, and_assoc]

/-- A text that begins with such tokens is cut into these and the tokens of what follows. -/
theorem tokens_append_of_lexedBefore {toks : List Token} {rest : Text} (h : LexedBefore rest toks) :
    tokens (textOf toks ++ rest) = toks ++ tokens rest := by
  induction toks with
  | nil => rfl
  | cons token toks ih =>
      rw [textOf_cons, List.append_assoc, tokens_append_of_lexed h.1, ih h.2, List.cons_append]

/-- Closed tokens at the beginning of a text are cut from it one after the other. -/
theorem lexedBefore_of_tokens_eq_append {pre toks : List Token} {text : Text}
    (h : tokens text = pre ++ toks) (hclosed : ∀ token ∈ pre, token.Closed) :
    ∃ rest, text = textOf pre ++ rest ∧ LexedBefore rest pre ∧ tokens rest = toks := by
  induction pre generalizing text with
  | nil => exact ⟨text, rfl, trivial, h⟩
  | cons token pre ih =>
      obtain ⟨tail, rfl, hlexed, htail⟩ :=
        lexed_of_tokens_eq_cons h (hclosed token List.mem_cons_self)
      obtain ⟨rest, rfl, hpre, hrest⟩ :=
        ih htail fun token hmem => hclosed token (List.mem_cons_of_mem _ hmem)
      exact ⟨rest, by simp, ⟨hlexed, hpre⟩, hrest⟩

/-- Where a name may end none goes on. -/
theorem NameEnds.not_inName {left right : Text} (h : NameEnds right) : ¬ InName left right := by
  intro hin
  obtain ⟨-, c, hc, hname⟩ := hin
  rw [h c hc] at hname
  cases hname

/-- Texts meet within a name if the ends of longer ones do. -/
theorem InName.append {front left right tail : Text} (h : InName left right) :
    InName (front ++ left) (right ++ tail) := by
  obtain ⟨⟨c, hc, hlast⟩, d, hd, hhead⟩ := h
  refine ⟨⟨c, ?_, hlast⟩, d, ?_, hhead⟩
  · rw [Option.mem_def, List.getLast?_append, Option.mem_def.1 hc]
    rfl
  · rw [Option.mem_def, List.head?_append, Option.mem_def.1 hd]
    rfl

/-- What goes on behind a name is within it or begins with no name character. -/
theorem inName_of_isRelationName {word right : Text} (hword : isRelationName word)
    (hright : ¬ NameEnds right) : InName word right := by
  obtain ⟨hne, hall⟩ := isRelationName_iff.1 hword
  refine ⟨⟨word.getLast hne, List.getLast?_eq_some_getLast hne, hall _ (List.getLast_mem hne)⟩, ?_⟩
  simpa [NameEnds] using hright

/-- A name is cut nowhere. -/
theorem inName_of_append {left right : Text} (h : isRelationName (left ++ right))
    (hleft : left ≠ []) (hright : right ≠ []) : InName left right := by
  obtain ⟨-, hall⟩ := isRelationName_iff.1 h
  obtain ⟨hl, hr⟩ := List.forall_mem_append.1 hall
  refine inName_of_isRelationName (isRelationName_iff.2 ⟨hleft, hl⟩) fun hends => ?_
  obtain ⟨c, right, rfl⟩ := List.exists_cons_of_ne_nil hright
  have hc := hr c List.mem_cons_self
  rw [hends c rfl] at hc
  cases hc

/-- Tokens stay as they are in front of another text that does not go on with their last name. -/
theorem LexedBefore.of_not_inName {toks : List Token} {rest other : Text}
    (h : LexedBefore rest toks) (hother : ¬ InName (textOf toks) other) :
    LexedBefore other toks := by
  induction toks with
  | nil => trivial
  | cons token toks ih =>
      have hlater : ¬ InName (textOf toks) other := by
        intro hin
        have hlonger : InName (token.text ++ textOf toks) (other ++ []) := hin.append
        rw [List.append_nil, ← textOf_cons] at hlonger
        exact hother hlonger
      refine ⟨?_, ih h.2 hlater⟩
      have htoken := h.1
      cases token with
      | name word =>
          refine ⟨htoken.1, ?_⟩
          cases toks with
          | nil =>
              rw [textOf_cons, textOf_nil, List.append_nil] at hother
              rw [textOf_nil, List.nil_append]
              exact Classical.not_not.1 fun hends =>
                hother (inName_of_isRelationName htoken.1 hends)
          | cons next toks =>
              obtain ⟨c, tail, hnext⟩ := List.exists_cons_of_ne_nil h.2.1.text_ne_nil
              have hends := htoken.2
              simp only [NameEnds, textOf_cons, hnext, List.cons_append, List.head?_cons] at hends ⊢
              exact hends
      | _ => exact htoken

/-- Tokens in front of a text that begins no name stay as they are in front of another one. -/
theorem LexedBefore.of_nameEnds {toks : List Token} {rest other : Text} (h : LexedBefore rest toks)
    (hother : NameEnds other) : LexedBefore other toks :=
  h.of_not_inName hother.not_inName

end Syntax

end RelQuery
