import RelQuery.Operator
import RelQuery.Text.Blank

/-!
# Tokens

An expression is cut into tokens from left to right, and what a token is does not depend on what
the reader expects. A condition reaches to the next closing brace and a group to the matching
parenthesis, both over the bare text: braces inside a group and parentheses inside a condition are
not seen. `tokens_text` says that the tokens' texts make up the expression again.
-/

namespace RelQuery.Syntax

/-- A piece of an expression. -/
inductive Token where
  /-- A blank character. -/
  | blank (c : Char)
  /-- A condition, without its braces. -/
  | condition (body : Text)
  /-- An opening brace that no closing brace follows, and all text behind it. -/
  | openCondition (rest : Text)
  /-- A group, without its parentheses. -/
  | group (body : Text)
  /-- An opening parenthesis that none closes, and all text behind it. -/
  | openGroup (rest : Text)
  /-- An operator symbol. -/
  | operator (op : Operator)
  /-- A longest run of name characters. -/
  | name (word : Text)
  /-- A character that begins no token. -/
  | other (c : Char)
  deriving DecidableEq, Repr

namespace Token

/-- The text that the token was cut from. -/
def text : Token → Text
  | blank c => [c]
  | condition body => '{' :: body ++ ['}']
  | openCondition rest => '{' :: rest
  | group body => '(' :: body ++ [')']
  | openGroup rest => '(' :: rest
  | operator op => [op.symbol]
  | name word => word
  | other c => [c]

/-- The body of a group whose opening parenthesis has been passed and the text behind its closing
one, when `depth` groups inside it are still open. -/
def closeGroup? : (depth : Nat) → Text → Option (Text × Text)
  | _, [] => none
  | depth, c :: rest =>
      if c = ')' then
        match depth with
        | 0 => some ([], rest)
        | depth + 1 => (closeGroup? depth rest).map fun (body, after) => (c :: body, after)
      else
        (closeGroup? (if c = '(' then depth + 1 else depth) rest).map
          fun (body, after) => (c :: body, after)

/-- The token that begins with `c` when `rest` follows. -/
def first (c : Char) (rest : Text) : Token :=
  if Text.isBlank c then blank c
  else if c = '{' then
    match Text.cut? '}' rest with
    | some (body, _) => condition body
    | none => openCondition rest
  else if c = '(' then
    match closeGroup? 0 rest with
    | some (body, _) => group body
    | none => openGroup rest
  else
    match Operator.ofSymbol? c with
    | some op => operator op
    | none => if isNameChar c then name (c :: rest.takeWhile isNameChar) else other c

end Token

/-- The tokens of a text of which `skip` characters belong to a token already cut. -/
def tokensFrom : (skip : Nat) → Text → List Token
  | _, [] => []
  | skip + 1, _ :: rest => tokensFrom skip rest
  | 0, c :: rest =>
      let token := Token.first c rest
      token :: tokensFrom (token.text.length - 1) rest

/-- The tokens of a text. -/
def tokens (text : Text) : List Token :=
  tokensFrom 0 text

/-- A group that closes is followed by its closing parenthesis. -/
theorem Token.closeGroup?_eq_some {depth : Nat} {rest body after : Text}
    (h : Token.closeGroup? depth rest = some (body, after)) : rest = body ++ ')' :: after := by
  induction rest generalizing depth body with
  | nil => simp [Token.closeGroup?] at h
  | cons c rest ih =>
    unfold Token.closeGroup? at h
    split at h
    · rename_i hc
      split at h
      · simp_all
      · obtain ⟨⟨inner, tail⟩, hr, he⟩ := Option.map_eq_some_iff.1 h
        simp only [Prod.mk.injEq] at he
        obtain ⟨rfl, rfl⟩ := he
        simp [← ih hr]
    · obtain ⟨⟨inner, tail⟩, hr, he⟩ := Option.map_eq_some_iff.1 h
      simp only [Prod.mk.injEq] at he
      obtain ⟨rfl, rfl⟩ := he
      simp [← ih hr]

/-- A longest run and the text behind it make up the text again. -/
theorem takeWhile_append_drop (p : Char → Bool) (text : Text) :
    text.takeWhile p ++ text.drop (text.takeWhile p).length = text := by
  induction text with
  | nil => rfl
  | cons c text ih => by_cases h : p c <;> simp [h, ih]

/-- The first token of a text has a character. -/
theorem Token.text_first_ne_nil (c : Char) (rest : Text) : (Token.first c rest).text ≠ [] := by
  unfold Token.first
  split
  · simp [Token.text]
  split
  · split <;> simp [Token.text]
  split
  · split <;> simp [Token.text]
  split
  · simp [Token.text]
  split <;> simp [Token.text]

/-- A token's text is where the token was cut from. -/
theorem Token.first_text_append (c : Char) (rest : Text) :
    (Token.first c rest).text ++ (c :: rest).drop (Token.first c rest).text.length = c :: rest := by
  unfold Token.first
  split
  · simp [Token.text]
  split
  · rename_i hc
    split
    · rename_i body after hcut
      have := (Text.cut?_eq_some_iff.1 hcut).1
      simp [Token.text, hc, this, List.drop_append]
    · simp [Token.text, hc]
  split
  · rename_i hc
    split
    · rename_i body after hclose
      have := Token.closeGroup?_eq_some hclose
      simp [Token.text, hc, this, List.drop_append]
    · simp [Token.text, hc]
  split
  · rename_i op hop
    have : op.symbol = c := by simpa using List.find?_some hop
    simp [Token.text, this]
  split
  · simp [Token.text, takeWhile_append_drop]
  · simp [Token.text]

/-- Skipping characters while cutting is cutting what is behind them. -/
theorem tokensFrom_eq_tokens_drop (skip : Nat) (text : Text) :
    tokensFrom skip text = tokens (text.drop skip) := by
  induction text generalizing skip with
  | nil => cases skip <;> simp [tokens, tokensFrom]
  | cons c rest ih =>
    cases skip with
    | zero => simp [tokens]
    | succ skip => simpa [tokensFrom] using ih skip

/-- Cutting into tokens loses nothing. -/
theorem tokens_text (text : Text) : (tokens text).flatMap Token.text = text := by
  match text with
  | [] => rfl
  | c :: rest =>
    have happ := Token.first_text_append c rest
    obtain ⟨d, tail, htext⟩ := List.exists_cons_of_ne_nil (Token.text_first_ne_nil c rest)
    have hlen : (rest.drop tail.length).length < (c :: rest).length := by
      rw [List.length_drop, List.length_cons]
      omega
    have ih := tokens_text (rest.drop tail.length)
    simp only [tokens, tokensFrom, List.flatMap_cons]
    rw [tokensFrom_eq_tokens_drop, htext]
    rw [htext] at happ
    simpa [ih] using happ
termination_by text.length

end RelQuery.Syntax
