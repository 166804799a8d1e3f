import RelQuery.Proofs.Syntax.Accepted

/-!
# Operators of a text and of its tree

Every operator symbol of an accepted text that stands outside conditions is the operator of one node
of the tree, except those of binary operators that begin the text or a group: the reader takes such
an operator at the start, and the next operator replaces it (`operatorSymbols_perm_of_read`). The
invariant counts operators: those read so far are the ones that the reader still keeps and the ones
that began something, where one that is kept and began something counts twice on both sides.
-/

namespace RelQuery

namespace Text

/-- The operator symbols of a text that stand outside conditions. -/
def operatorSymbols (text : Text) : List Operator :=
  (outside text).filterMap Operator.ofSymbol?

/-- The binary operators of a text without conditions that begin it or follow an opening
parenthesis, blanks apart; nothing begins with the text unless it is `atStart`. -/
def leadingFrom : (atStart : Bool) → Text → List Operator
  | _, [] => []
  | atStart, c :: text =>
      if isBlank c then leadingFrom atStart text
      else if atStart then
        (Operator.ofSymbol? c).toList.filter (·.category ≠ .unary) ++ leadingFrom (c = '(') text
      else leadingFrom (c = '(') text

/-- Whether an operator behind the text would begin something. -/
def startAfter : (atStart : Bool) → Text → Bool
  | atStart, [] => atStart
  | atStart, c :: text => if isBlank c then startAfter atStart text else startAfter (c = '(') text

/-- The binary operators that begin the text or a group in it, blanks and conditions apart. -/
def leadingOperators (text : Text) : List Operator :=
  leadingFrom true (outside text)

variable {atStart : Bool} {left right text : Text} {c : Char}

/-- The symbols of two texts are those of the one and of the other, if the second one begins outside
conditions. -/
theorem EndsOutside.operatorSymbols_append (h : EndsOutside left) :
    operatorSymbols (left ++ right) = operatorSymbols left ++ operatorSymbols right := by
  simp [operatorSymbols, h.outside_append]

/-- In the second text an operator may lead if the first one ends where one may. -/
theorem leadingFrom_append :
    leadingFrom atStart (left ++ right) =
      leadingFrom atStart left ++ leadingFrom (startAfter atStart left) right := by
  induction left generalizing atStart with
  | nil => rfl
  | cons c left ih =>
      simp only [List.cons_append, leadingFrom, startAfter]
      split
      · exact ih
      · split
        · rw [ih, List.append_assoc]
        · exact ih

/-- Where one may lead is carried from the first text to the second. -/
theorem startAfter_append :
    startAfter atStart (left ++ right) = startAfter (startAfter atStart left) right := by
  induction left generalizing atStart with
  | nil => rfl
  | cons c left ih =>
      simp only [List.cons_append, startAfter]
      split
      · exact ih
      · exact ih

/-- The leading operators of two texts are those of the first, and those of the second from where
the first one ends. -/
theorem EndsOutside.leadingOperators_append (h : EndsOutside left) :
    leadingOperators (left ++ right) = leadingOperators left ++
      leadingFrom (startAfter true (outside left)) (outside right) := by
  rw [leadingOperators, h.outside_append, leadingFrom_append, leadingOperators]

/-- A blank is no operator and changes nothing. -/
theorem operators_blank (h : isBlank c) (atStart : Bool) : operatorSymbols [c] = [] ∧
    leadingFrom atStart (outside [c]) = [] ∧ startAfter atStart (outside [c]) = atStart := by
  have hsymbol : Operator.ofSymbol? c = none := by
    rw [Operator.ofSymbol?, List.find?_eq_none]
    intro op _ hop
    rw [← of_decide_eq_true hop] at h
    cases op <;> exact absurd h (by decide)
  rw [operatorSymbols, (plain_blank h).outside_eq]
  simp [leadingFrom, startAfter, h, hsymbol]

/-- An operator is read, and nothing begins behind it. -/
theorem operators_operator (op : Operator) (atStart : Bool) : operatorSymbols [op.symbol] = [op] ∧
    leadingFrom atStart (outside [op.symbol]) =
      (if atStart then [op].filter (·.category ≠ .unary) else []) ∧
    startAfter atStart (outside [op.symbol]) = false := by
  cases op <;> cases atStart <;> decide

/-- No operator is in a name. -/
theorem leadingFrom_of_forall_isNameChar (h : ∀ c ∈ text, isNameChar c) :
    leadingFrom atStart text = [] := by
  induction text generalizing atStart with
  | nil => rfl
  | cons c text ih =>
      obtain ⟨hc, htext⟩ := List.forall_mem_cons.1 h
      cases atStart <;>
        simp [leadingFrom, isBlank_of_isNameChar hc, ofSymbol?_of_isNameChar hc, ih htext]

/-- Nothing begins within a name. -/
theorem ne_open_of_isNameChar (h : isNameChar c) : c ≠ '(' := by
  rintro rfl
  rw [isNameChar_open] at h
  cases h

/-- Nothing begins behind a name. -/
theorem startAfter_name {name : Text} (h : isRelationName name) :
    startAfter atStart name = false := by
  obtain ⟨hne, hall⟩ := isRelationName_iff.1 h
  have hfalse (text : Text) (htext : ∀ c ∈ text, isNameChar c) : startAfter false text = false := by
    induction text with
    | nil => rfl
    | cons c text ih =>
        obtain ⟨hc, htext⟩ := List.forall_mem_cons.1 htext
        simp [startAfter, ne_open_of_isNameChar hc, ih htext]
  obtain ⟨c, text, rfl⟩ := List.exists_cons_of_ne_nil hne
  obtain ⟨hc, htext⟩ := List.forall_mem_cons.1 hall
  simp [startAfter, isBlank_of_isNameChar hc, ne_open_of_isNameChar hc, hfalse text htext]

/-- A name has no operator symbol. -/
theorem operatorSymbols_name {name : Text} (h : isRelationName name) :
    operatorSymbols name = [] := by
  rw [operatorSymbols, (plain_of_isRelationName h).outside_eq, List.filterMap_eq_nil_iff]
  exact fun c hc => ofSymbol?_of_isNameChar ((isRelationName_iff.1 h).2 c hc)

/-- A group begins anew, and nothing begins behind it. -/
theorem WellNested.leadingFrom_group (h : WellNested text) :
    leadingFrom atStart (outside ('(' :: text ++ [')'])) = leadingOperators text ∧
      startAfter atStart (outside ('(' :: text ++ [')'])) = false := by
  have hgroup : outside ('(' :: text ++ [')']) = '(' :: (outside text ++ [')']) := by
    rw [List.cons_append, outside_cons_open, h.endsOutside.outside_append_close]
    rfl
  have hopen : leadingFrom atStart ['('] = [] := by cases atStart <;> decide
  have hstart : startAfter atStart ['('] = true := by cases atStart <;> decide
  have hclose (b : Bool) : leadingFrom b [')'] = [] := by cases b <;> decide
  have hend (b : Bool) : startAfter b [')'] = false := by cases b <;> decide
  rw [hgroup, ← List.singleton_append, leadingFrom_append, startAfter_append, hopen, hstart,
    leadingFrom_append, startAfter_append, hclose, hend, List.append_nil]
  exact ⟨rfl, rfl⟩

/-- Parentheses around a text add no operator symbol. -/
theorem WellNested.operatorSymbols_group (h : WellNested text) :
    operatorSymbols ('(' :: text ++ [')']) = operatorSymbols text := by
  rw [operatorSymbols, List.cons_append, outside_cons_open, h.endsOutside.outside_append_close]
  have hopen : Operator.ofSymbol? '(' = none := by decide
  have hclose : Operator.ofSymbol? ')' = none := by decide
  simp [operatorSymbols, hopen, hclose, outside, outsideFrom]

end Text

namespace Syntax

variable {settings : Settings} {groups : Nat} {text rest : Text} {s s' : State} {token : Token}
variable {before : List Token} {root operand : Operand} {op : Operator} {n : Expr}

open Text (operatorSymbols leadingFrom leadingOperators startAfter outside)

/-- The operators of what the reader keeps. -/
def State.operators (s : State) : List Operator :=
  s.op.toList ++ s.lhs.toList.flatMap fun operand => operand.expr.operators

/-- The binary operator that the reader keeps although no operand came before it. -/
def State.leading (s : State) : List Operator :=
  if s.mode = .operand ∧ s.lhs.isSome then [] else s.op.toList.filter (·.category ≠ .unary)

/-- A binary operator that waits for its first operand leads. -/
theorem State.leading_of_ne_unary (hop : ∀ op ∈ s.op, op.category ≠ .unary)
    (hmode : s.mode = .operand → s.lhs = none) : s.leading = s.op.toList := by
  have hplace : ¬ (s.mode = .operand ∧ s.lhs.isSome) := by
    rintro ⟨hoperand, hlhs⟩
    simp [hmode hoperand] at hlhs
  rw [State.leading, if_neg hplace, List.filter_eq_self]
  simpa using hop

/-- An operator that is unary or has its first operand does not. -/
theorem State.leading_of_operand (hmode : s.mode = .operand) (hop : s.op = some op)
    (h : op.category = .unary ∨ s.lhs.isSome) : s.leading = [] := by
  rcases h with hunary | hlhs
  · simp [State.leading, hop, hunary]
  · simp [State.leading, hmode, hlhs]

/-- A node has taken the operator. -/
theorem operators_built : (s.built operand).operators = operand.expr.operators := by
  simp [State.operators]

/-- When a node is built no operator is kept. -/
theorem leading_built : (s.built operand).leading = [] := by
  simp [State.leading]

/-- What is known of the operators when `before` has been read. -/
structure Counted (before : List Token) (s : State) : Prop where
  startAfter_eq : startAfter true (outside (textOf before)) = decide (s.mode = .start)
  count_eq : ∀ op, (operatorSymbols (textOf before)).count op + s.leading.count op =
    s.operators.count op + (leadingOperators (textOf before)).count op

/-- An operand's operators are those in its text that begin nothing. -/
structure CountedOperand (token : Token) (operand : Operand) : Prop where
  startAfter_eq : ∀ atStart, startAfter atStart (outside token.text) = false
  count_eq : ∀ atStart op, (operatorSymbols token.text).count op =
    operand.expr.operators.count op + (leadingFrom atStart (outside token.text)).count op

/-- A name has no operators, and its tree has none. -/
theorem CountedOperand.name {word : Text} (h : isRelationName word) :
    CountedOperand (.name word) ⟨.named word, 1⟩ where
  startAfter_eq atStart := by
    rw [Token.text_name, (plain_of_isRelationName h).outside_eq, Text.startAfter_name h]
  count_eq atStart op := by
    rw [Token.text_name, (plain_of_isRelationName h).outside_eq, Text.operatorSymbols_name h,
      Text.leadingFrom_of_forall_isNameChar (isRelationName_iff.1 h).2]
    rfl

/-- A group has the operators of its body, and parentheses around it let none lead. -/
theorem CountedOperand.group {body : Text} (h : body.WellNested)
    (hbody : ∀ op, (operatorSymbols body).count op =
      operand.expr.operators.count op + (leadingOperators body).count op) :
    CountedOperand (.group body) operand.grouped where
  startAfter_eq _ := h.leadingFrom_group.2
  count_eq atStart op := by
    rw [Token.text_group, h.operatorSymbols_group, h.leadingFrom_group.1, Operand.grouped,
      Expr.operators_withSource]
    exact hbody op

/-! ## The invariant -/

/-- What a token adds to the text and what it does to the state keep the count. -/
theorem Counted.snoc (hs : Counted before s) (hnested : (textOf before).WellNested)
    (hstart : startAfter (decide (s.mode = .start)) (outside token.text) =
      decide (s'.mode = .start))
    (hcount : ∀ op, (operatorSymbols token.text).count op + s'.leading.count op +
      s.operators.count op = s'.operators.count op +
        (leadingFrom (decide (s.mode = .start)) (outside token.text)).count op +
        s.leading.count op) :
    Counted (before ++ [token]) s' := by
  have htext : textOf (before ++ [token]) = textOf before ++ token.text := by simp
  have houtside := hnested.endsOutside
  refine ⟨?_, fun op => ?_⟩
  · rw [htext, houtside.outside_append, Text.startAfter_append, hs.startAfter_eq, hstart]
  · rw [htext, houtside.operatorSymbols_append, houtside.leadingOperators_append, hs.startAfter_eq,
      List.count_append, List.count_append]
    have := hs.count_eq op
    have := hcount op
    omega

/-- Every step keeps the count. -/
theorem Step.counted (h : Step settings groups text s token s') (hbetween : s.BetweenTokens)
    (hnested : (textOf before).WellNested) (hlexed : token.Lexed rest)
    (hoperand : ∀ operand, ReadsOperand settings groups token operand →
      CountedOperand token operand)
    (hs : Counted before s) : Counted (before ++ [token]) s' := by
  cases h with
  | blank c =>
      obtain ⟨hsymbols, hleading, hstart⟩ := Text.operators_blank hlexed (decide (s.mode = .start))
      refine hs.snoc hnested hstart fun op => ?_
      rw [Token.text_blank, hsymbols, hleading]
      show 0 + s.leading.count op + s.operators.count op =
        s.operators.count op + 0 + s.leading.count op
      omega
  | condition body =>
      have houtside : outside (Token.condition body).text = [] := Text.outside_condition hlexed
      refine hs.snoc hnested (by rw [houtside]; rfl) fun op => ?_
      rw [operatorSymbols, houtside]
      show 0 + s.leading.count op + s.operators.count op =
        s.operators.count op + 0 + s.leading.count op
      omega
  | operator op hmode =>
      obtain ⟨hsymbols, hleading, hstart⟩ := Text.operators_operator op (decide (s.mode = .start))
      refine hs.snoc hnested hstart fun other => ?_
      rw [Token.text_operator, hsymbols, hleading]
      rcases hmode with hmode | ⟨hmode, hbinary⟩
      · obtain ⟨hlhs, hop⟩ := hbetween.start hmode
        simp [State.leading, State.operators, hmode, hlhs, hop]
      · -- The operator that the reader keeps, if there is one, is lost here.
        obtain ⟨hlhs, hop⟩ := hbetween.operator hmode
        have hlost := State.leading_of_ne_unary hop (by simp [hmode])
        have hkept : State.leading ((s.advance (.operator op)).withOperator op) = [] :=
          State.leading_of_operand rfl rfl (.inr hlhs)
        have hstarts : decide (s.mode = .start) = false := by simp [hmode]
        rw [hlost, hkept, hstarts, if_neg Bool.false_ne_true, State.operators, State.operators]
        simp only [State.lhs_withOperator, State.lhs_advance, State.op_withOperator,
          Option.toList_some, List.count_append, List.count_nil]
        omega
  | @left _ operand hmode hread hop hlhs =>
      obtain ⟨hstart, hcount⟩ := hoperand operand hread
      refine hs.snoc hnested (hstart _) fun other => ?_
      have hbefore := State.leading_of_ne_unary hop fun _ => hlhs
      have hafter : State.leading ((s.advance token).holding operand) = s.op.toList := by
        refine State.leading_of_ne_unary hop fun hmode => ?_
        cases hmode
      have hkept : s.operators = s.op.toList := by simp [State.operators, hlhs]
      have hholding : State.operators ((s.advance token).holding operand) =
          s.op.toList ++ operand.expr.operators := by
        simp [State.operators]
      rw [hcount (decide (s.mode = .start)) other, hbefore, hafter, hkept, hholding,
        List.count_append]
      omega
  | @unary _ operand op node hmode hread hop hunary hheight hnode =>
      obtain ⟨hstart, hcount⟩ := hoperand operand hread
      refine hs.snoc hnested (hstart _) fun other => ?_
      obtain ⟨op', hop', hlhs⟩ := hbetween.operand hmode
      cases hop.symm.trans hop'
      obtain ⟨condition, -, rfl⟩ := Expr.assemble_unary hunary hnode
      have hkept : s.operators = [op] := by simp [State.operators, hlhs hunary, hop]
      rw [hcount (decide (s.mode = .start)) other, State.leading_of_operand hmode hop (.inl hunary),
        hkept, operators_built, leading_built, Expr.operators_unary]
      simp only [List.count_cons, List.count_nil]
      omega
  | @binary _ lhs operand op node hmode hread hop hbinary hlhs hheight hnode =>
      obtain ⟨hstart, hcount⟩ := hoperand operand hread
      refine hs.snoc hnested (hstart _) fun other => ?_
      have hkept : s.operators = op :: lhs.expr.operators := by simp [State.operators, hlhs, hop]
      rw [hcount (decide (s.mode = .start)) other,
        State.leading_of_operand hmode hop (.inr (by simp [hlhs])), hkept, operators_built,
        leading_built, (Expr.assemble_binary hbinary hnode).operators_eq]
      simp only [List.count_cons, List.count_nil, List.count_append]
      omega

/-- At the beginning there is nothing to count. -/
theorem Counted.initial : Counted [] {} where
  startAfter_eq := rfl
  count_eq _ := rfl

/-- An accepted text has the operators of its tree and those that begin it or a group in it. -/
theorem readNested_count (h : readNested settings groups text = .ok root) :
    ∀ op, (operatorSymbols text).count op =
      root.expr.operators.count op + (leadingOperators text).count op := by
  induction groups using Nat.strongRecOn generalizing text root with
  | ind groups ih =>
      obtain ⟨s, hs, hroot, hop, -⟩ := readNested_invariant (P := Counted) h .initial
        fun hreached hnested hlexed hstep hs => by
          refine hstep.counted hreached.betweenTokens hnested hlexed ?_ hs
          intro operand hread
          cases hread with
          | name hne hknown => exact .name hlexed.1
          | group hne hread =>
              exact .group (readNested_wellNested hread) (ih _ (Nat.lt_succ_self _) hread)
      intro op
      have := hs.count_eq op
      simpa [State.leading, State.operators, hop, hroot, textOf, tokens_text] using this

/-- The operator symbols of an accepted text that stand outside conditions are the operators of its
tree and the binary ones that begin the text or a group; so they are those of the tree alone exactly
when nothing begins with a binary operator. -/
theorem operatorSymbols_perm_of_read (h : read settings text = .ok n) :
    (operatorSymbols text).Perm (n.operators ++ leadingOperators text) ∧
      ((operatorSymbols text).Perm n.operators ↔ leadingOperators text = []) := by
  obtain ⟨root, hread, rfl⟩ := read_eq_ok_iff.1 h
  have hperm : (operatorSymbols text).Perm (root.expr.operators ++ leadingOperators text) := by
    refine List.perm_iff_count.2 fun op => ?_
    rw [List.count_append, readNested_count hread op]
  refine ⟨hperm, fun hsame => ?_, fun hnone => ?_⟩
  · have hlength := hperm.length_eq
    rw [hsame.length_eq, List.length_append] at hlength
    exact List.eq_nil_of_length_eq_zero (by omega)
  · simpa [hnone] using hperm

/-- A union that begins the text and that the intersection replaces. -/
theorem read_leading_union : read {} "∪ R ∩ S".toList =
    .ok (.setOp .intersect (.named ['R']) (.named ['S']) "∪ R ∩ S".toList) := by
  rfl

/-- Here the union leads, and is the one symbol that is no operator of the tree. -/
theorem operatorSymbols_perm_of_read_leading_union :
    ∃ n, read {} "∪ R ∩ S".toList = .ok n ∧ n.operators = [.intersect] ∧
      (operatorSymbols "∪ R ∩ S".toList).Perm (n.operators ++ leadingOperators "∪ R ∩ S".toList) ∧
      ((operatorSymbols "∪ R ∩ S".toList).Perm n.operators ↔
        leadingOperators "∪ R ∩ S".toList = []) :=
  ⟨_, read_leading_union, by decide, operatorSymbols_perm_of_read read_leading_union⟩

/-- Not every operator symbol outside conditions is the operator of a node. -/
theorem not_operatorSymbols_perm : ¬ ∀ text n, read {} text = .ok n →
    (operatorSymbols text).Perm n.operators := by
  intro h
  exact absurd (h _ _ read_leading_union).length_eq (by decide)

end Syntax

end RelQuery
