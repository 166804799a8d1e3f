import RelQuery.Proofs.Syntax.Limits

/-!
# Parentheses around a whole text

A text between parentheses is a group, and the group is read as the text by itself where one group
fewer may be opened. How many groups the settings allow matters only through the number of groups
that may still be opened, and the error about too many of them names it (`readNested_withMaxDepth`).
So parentheses that are not needed change the source of the tree and that error
(`read_parenthesized`).
-/

namespace RelQuery.Syntax

/-- The same cause where the settings allow `limit` groups. -/
def Cause.withMaxDepth (limit : Nat) : Cause → Cause
  | nestedTooDeep _ => nestedTooDeep limit
  | cause => cause

/-- The same error where the settings allow `limit` groups. -/
def ReadError.withMaxDepth (limit : Nat) (e : ReadError) : ReadError :=
  { e with cause := e.cause.withMaxDepth limit }

variable {settings other : Settings} {groups : Nat} {text body : Text} {s : State} {token : Token}
variable {toks : List Token}

/-- Errors of two computations in a row may be changed one by one. -/
theorem mapError_bind {α β : Type} {f : ReadError → ReadError} {result : Except ReadError α}
    {next : α → Except ReadError β} :
    (result.bind next).mapError f = (result.mapError f).bind fun a => (next a).mapError f := by
  cases result <;> rfl

/-! ## Settings that allow another number of groups -/

section

variable (hknown : other.known = settings.known)
  (htree : other.maxTreeDepth = settings.maxTreeDepth)

/-- A group is read the same way if its body is, but for the limit that an error names. -/
theorem acceptGroup_withMaxDepth
    (hread : ∀ inner, groups = inner + 1 → readNested other inner body =
      (readNested settings inner body).mapError (.withMaxDepth other.maxDepth)) :
    acceptGroup other (groupReader other groups) s body =
      (acceptGroup settings (groupReader settings groups) s body).mapError
        (.withMaxDepth other.maxDepth) := by
  by_cases hne : body = []
  · rw [hne]
    rfl
  have hempty : body.isEmpty = false := List.isEmpty_eq_false_iff.2 hne
  cases groups with
  | zero =>
      simp only [acceptGroup, hempty, groupReader]
      rfl
  | succ inner =>
      simp only [groupReader, acceptGroup_eq_bind hne, mapError_bind, hread inner rfl]
      rfl

include hknown in
/-- So is every token. -/
theorem accept_withMaxDepth
    (hread : ∀ inner body, groups = inner + 1 → readNested other inner body =
      (readNested settings inner body).mapError (.withMaxDepth other.maxDepth)) :
    accept other (groupReader other groups) s token =
      (accept settings (groupReader settings groups) s token).mapError
        (.withMaxDepth other.maxDepth) := by
  have hname (word : Text) : acceptName other s word =
      (acceptName settings s word).mapError (.withMaxDepth other.maxDepth) := by
    rw [acceptName, acceptName, allows_of_known_eq hknown]
    split
    · rfl
    · split <;> rfl
  have hoperator (op : Operator) : acceptOperator s op =
      (acceptOperator s op).mapError (.withMaxDepth other.maxDepth) := by
    rw [acceptOperator]
    split <;> rfl
  unfold accept
  split
  · rfl
  · rfl
  · rfl
  · exact hoperator _
  · exact hoperator _
  · exact acceptGroup_withMaxDepth fun inner => hread inner _
  · exact acceptGroup_withMaxDepth fun inner => hread inner _
  · rfl
  · rfl
  · exact hname _
  · exact hname _
  · rfl

include htree in
/-- Building nodes has nothing to do with groups. -/
theorem settle_withMaxDepth :
    settle other text s = (settle settings text s).mapError (.withMaxDepth other.maxDepth) := by
  unfold settle build
  rw [htree]
  split
  · split
    · rfl
    · dsimp only
      split
      · rfl
      · split <;> rfl
  · rfl

/-- Neither has the end. -/
theorem finish_withMaxDepth (limit : Nat) :
    finish s = (finish s).mapError (.withMaxDepth limit) := by
  unfold finish
  split
  · rfl
  · split <;> rfl

include hknown htree

/-- So rows of tokens are read the same way. -/
theorem readTokens_withMaxDepth
    (hread : ∀ inner body, groups = inner + 1 → readNested other inner body =
      (readNested settings inner body).mapError (.withMaxDepth other.maxDepth)) :
    readTokens other (groupReader other groups) text s toks =
      (readTokens settings (groupReader settings groups) text s toks).mapError
        (.withMaxDepth other.maxDepth) := by
  induction toks generalizing s with
  | nil => rfl
  | cons token toks ih =>
      have hstep : step other (groupReader other groups) text s token =
          (step settings (groupReader settings groups) text s token).mapError
            (.withMaxDepth other.maxDepth) := by
        rw [step, step, mapError_bind, accept_withMaxDepth hknown hread]
        congr 1
        funext taken
        exact settle_withMaxDepth htree
      rw [readTokens, readTokens, mapError_bind, hstep]
      congr 1
      funext settled
      exact ih

/-- What a text is read as depends on how many groups may be opened, and on the number that the
settings allow only in the error about it. -/
theorem readNested_withMaxDepth (groups : Nat) (text : Text) :
    readNested other groups text =
      (readNested settings groups text).mapError (.withMaxDepth other.maxDepth) := by
  induction groups using Nat.strongRecOn generalizing text with
  | ind groups ih =>
      rw [readNested_eq_readWith, readNested_eq_readWith, readWith, readWith, mapError_bind,
        readTokens_withMaxDepth hknown htree fun inner body hinner =>
          ih inner (by omega) body]
      congr 1
      funext s
      exact finish_withMaxDepth other.maxDepth

end

/-! ## A group that is all of a text -/

/-- A text with balanced parentheses is a single group between parentheses. -/
theorem tokens_parenthesized (h : text.Balanced) :
    tokens (Expr.parenthesized text) = [.group text] := by
  have hlexed : Token.Lexed [] (.group text) := h
  have htokens := tokens_append_of_lexed hlexed
  rwa [List.append_nil, tokens_nil] at htokens

/-- A text in parentheses is read as the group that it is. -/
theorem readNested_parenthesized (hne : text ≠ []) (h : text.Balanced) :
    readNested settings (groups + 1) (Expr.parenthesized text) =
      (readNested settings groups text).map Operand.grouped := by
  have haccept : accept settings (groupReader settings (groups + 1)) {} (.group text) =
      (readNested settings groups text).bind fun operand =>
        .ok ((State.advance {} (.group text)).withOperand operand.grouped) := by
    simp only [accept, groupReader, acceptGroup_eq_bind hne]
  rw [readNested_eq_readWith, readWith, tokens_parenthesized h, readTokens, step, haccept]
  cases readNested settings groups text with
  | error e => rfl
  | ok operand => rfl

/-- Parentheses around a whole text whose parentheses are balanced change nothing if one group more
may be opened: the tree is the same but for the parentheses in its source, and an error is the same
but for the number of groups in the one about too many of them. -/
theorem read_parenthesized (settings : Settings) (text : Text) (hne : text ≠ [])
    (hbalanced : text.Balanced) (depth treeDepth : Nat) :
    read (settings.limited (depth + 1) treeDepth) (Expr.parenthesized text) =
      match read (settings.limited depth treeDepth) text with
      | .ok n => .ok (n.withSource (Expr.parenthesized n.source))
      | .error e => .error (e.withMaxDepth (depth + 1)) := by
  have hknown : (settings.limited (depth + 1) treeDepth).known =
      (settings.limited depth treeDepth).known := rfl
  have hgroup : readNested (settings.limited (depth + 1) treeDepth) (depth + 1)
      (Expr.parenthesized text) =
        (readNested (settings.limited (depth + 1) treeDepth) depth text).map Operand.grouped :=
    readNested_parenthesized hne hbalanced
  have hsame : readNested (settings.limited (depth + 1) treeDepth) depth text =
      (readNested (settings.limited depth treeDepth) depth text).mapError
        (.withMaxDepth (depth + 1)) :=
    readNested_withMaxDepth hknown (by rfl) depth text
  show (readNested (settings.limited (depth + 1) treeDepth) (depth + 1) _).map Operand.expr =
    match (readNested (settings.limited depth treeDepth) depth text).map Operand.expr with
    | .ok n => .ok (n.withSource (Expr.parenthesized n.source))
    | .error e => .error (e.withMaxDepth (depth + 1))
  rw [hgroup, hsame]
  cases readNested (settings.limited depth treeDepth) depth text with
  | error e => rfl
  | ok root => rfl

/-- A union that needs no parentheses, and a text whose only group is one too many. -/
theorem read_parenthesized_union :
    let union : Text := "R ∪ S".toList
    let group : Text := "(R) ∪ S".toList
    let tree : Expr := .setOp .union (.named ['R']) (.named ['S']) union
    union.Balanced ∧ read (Settings.limited {} 0 9) union = .ok tree ∧
      read (Settings.limited {} 1 9) "(R ∪ S)".toList =
        .ok (tree.withSource "(R ∪ S)".toList) ∧
      group.Balanced ∧
      read (Settings.limited {} 0 9) group = .error ⟨.nestedTooDeep 0, 0, some '(', .start⟩ ∧
      read (Settings.limited {} 1 9) "((R) ∪ S)".toList =
        .error ⟨.nestedTooDeep 1, 0, some '(', .start⟩ := by
  intro union group tree
  have hunion : union.Balanced := by decide
  have hgroup : group.Balanced := by decide
  have hread : read (Settings.limited {} 0 9) union = .ok tree := by rfl
  have hrefused : read (Settings.limited {} 0 9) group =
      .error ⟨.nestedTooDeep 0, 0, some '(', .start⟩ := by rfl
  have haround := read_parenthesized {} union (by decide) hunion 0 9
  have haround' := read_parenthesized {} group (by decide) hgroup 0 9
  rw [hread] at haround
  rw [hrefused] at haround'
  exact ⟨hunion, hread, haround, hgroup, hrefused, haround'⟩

end RelQuery.Syntax
