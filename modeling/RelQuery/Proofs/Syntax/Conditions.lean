import RelQuery.Proofs.Syntax.Accepted
import RelQuery.Proofs.Syntax.Lockstep

/-!
# Conditions of a text and of its tree

Every condition of an accepted text that has something in it is the condition of one node of the
tree, except those that another condition replaces: the reader keeps one condition at a time, until
an operand completes a node, and forgets it when it meets the next one
(`conditionBlocks_perm_of_read`). The invariant counts conditions: those read so far are the ones in
what the reader keeps and the ones that have been replaced.
-/

namespace RelQuery

namespace Text

/-- The conditions that end in a text, each without its braces. Of the condition that the text
begins in, if it begins in one, the part before it is given. -/
def blocksFrom : (inside : Option Text) → Text → List Text
  | _, [] => []
  | some body, c :: text =>
      if c = '}' then body :: blocksFrom none text else blocksFrom (some (body ++ [c])) text
  | none, c :: text => if c = '{' then blocksFrom (some []) text else blocksFrom none text

/-- The conditions of a text that have something in them. -/
def conditionBlocks (text : Text) : List Text :=
  (blocksFrom none text).filter (· ≠ [])

variable {inside : Option Text} {left right text body : Text} {c : Char}

/-- Behind a text that ends outside conditions those of the second text begin anew. -/
theorem blocksFrom_append (h : insideAfter inside.isSome left = false) :
    blocksFrom inside (left ++ right) = blocksFrom inside left ++ blocksFrom none right := by
  induction left generalizing inside with
  | nil =>
      cases inside with
      | none => rfl
      | some body => cases h
  | cons c left ih =>
      cases inside with
      | none => by_cases hc : c = '{' <;> simp_all [blocksFrom, insideAfter]
      | some body => by_cases hc : c = '}' <;> simp_all [blocksFrom, insideAfter]

/-- The conditions of the first text come before those of the second. -/
theorem EndsOutside.conditionBlocks_append (h : EndsOutside left) :
    conditionBlocks (left ++ right) = conditionBlocks left ++ conditionBlocks right := by
  have hblocks : blocksFrom none (left ++ right) = blocksFrom none left ++ blocksFrom none right :=
    blocksFrom_append h
  rw [conditionBlocks, hblocks, List.filter_append, conditionBlocks, conditionBlocks]

/-- A plain text has no condition. -/
theorem Plain.conditionBlocks_eq (h : Plain text) : conditionBlocks text = [] := by
  have hblocks : ∀ text : Text, '{' ∉ text → blocksFrom none text = [] := by
    intro text hmem
    induction text with
    | nil => rfl
    | cons c text ih =>
        simp only [List.mem_cons, not_or] at hmem
        simp [blocksFrom, Ne.symm hmem.1, ih hmem.2]
  rw [conditionBlocks, hblocks text h.brace_not_mem, List.filter_nil]

/-- A condition ends with its closing brace. -/
theorem blocksFrom_close {start : Text} (h : '}' ∉ body) :
    blocksFrom (some start) (body ++ ['}']) = [start ++ body] := by
  induction body generalizing start with
  | nil => simp [blocksFrom]
  | cons c body ih =>
      simp only [List.mem_cons, not_or] at h
      simp [blocksFrom, Ne.symm h.1, ih h.2]

/-- A condition by itself is one condition, or none if nothing is in it. -/
theorem conditionBlocks_condition (h : '}' ∉ body) :
    conditionBlocks ('{' :: body ++ ['}']) = (Expr.presentCondition (some body)).toList := by
  have hblocks : blocksFrom none ('{' :: body ++ ['}']) = [body] := by
    have hclose : blocksFrom (some []) (body ++ ['}']) = [[] ++ body] := blocksFrom_close h
    simpa [blocksFrom] using hclose
  rw [conditionBlocks, hblocks]
  cases body with
  | nil => rfl
  | cons c body => rfl

/-- Parentheses around a text change none of its conditions. -/
theorem EndsOutside.conditionBlocks_group (h : EndsOutside text) :
    conditionBlocks ('(' :: text ++ [')']) = conditionBlocks text := by
  have hopen : EndsOutside ['('] := rfl
  have hclose : conditionBlocks [')'] = [] := by decide
  have htext : '(' :: text ++ [')'] = ['('] ++ (text ++ [')']) := rfl
  rw [htext, hopen.conditionBlocks_append, h.conditionBlocks_append, hclose, List.append_nil]
  rfl

end Text

namespace Syntax

open Text (conditionBlocks)

/-! ## Conditions that are replaced -/

/-- Where one is between two tokens of a group: the condition that no operand has taken yet, and
whether the next operand completes a node, which then takes the condition. -/
structure Slot where
  kept : Option Text := none
  completes : Bool := false
  deriving DecidableEq, Repr

namespace Slot

/-- The place behind a token. The first operand of a group completes a node only behind a unary
operator, every other one does. -/
def next (slot : Slot) : Token → Slot
  | .condition body => { slot with kept := some body }
  | .operator op => { slot with completes := slot.completes || op.category = .unary }
  | .name _ | .group _ =>
      { kept := if slot.completes then none else slot.kept, completes := true }
  | _ => slot

/-- The condition that a token replaces, if there is something in it. -/
def replaced (slot : Slot) : Token → List Text
  | .condition _ => (Expr.presentCondition slot.kept).toList
  | _ => []

end Slot

/-- What is replaced inside the group that a token is. -/
def replacedInGroup (inGroup : Text → List Text) : Token → List Text
  | .group body => inGroup body
  | _ => []

/-- The conditions that are replaced from a place on. -/
def replacedFrom (inGroup : Text → List Text) : Slot → List Token → List Text
  | _, [] => []
  | slot, token :: toks =>
      replacedInGroup inGroup token ++ slot.replaced token ++
        replacedFrom inGroup (slot.next token) toks

/-- The conditions that are replaced in a text, down to so many groups one inside another. -/
def replacedWithin : (groups : Nat) → Text → List Text
  | 0, _ => []
  | groups + 1, text => replacedFrom (replacedWithin groups) {} (tokens text)

/-- The conditions of a text, with something in them, behind which another condition comes in the
same group before an operand completes a node. -/
def replacedConditions (text : Text) : List Text :=
  replacedWithin text.length text

variable {settings : Settings} {groups : Nat} {text rest : Text} {s s' : State} {token : Token}
variable {before toks : List Token} {root operand : Operand} {slot : Slot} {n : Expr}
variable {inGroup : Text → List Text}

/-- In the second part of a row conditions are replaced from where the first part ends. -/
theorem replacedFrom_append :
    replacedFrom inGroup slot (before ++ toks) = replacedFrom inGroup slot before ++
      replacedFrom inGroup (before.foldl Slot.next slot) toks := by
  induction before generalizing slot with
  | nil => rfl
  | cons token before ih => simp [replacedFrom, ih]

/-! ## The invariant -/

/-- What is known of the conditions when `before` has been read. -/
structure Placed (inGroup : Text → List Text) (before : List Token) (s : State) : Prop where
  kept_eq : (before.foldl Slot.next {}).kept = s.condition
  completes_eq : (before.foldl Slot.next {}).completes =
    (s.lhs.isSome || s.op.any fun op => op.category = .unary)
  count_eq : ∀ c, (conditionBlocks (textOf before)).count c =
    s.conditions.count c + (replacedFrom inGroup {} before).count c

/-- An operand's conditions are those in its text that are not replaced there. -/
def PlacedOperand (inGroup : Text → List Text) (token : Token) (operand : Operand) : Prop :=
  ∀ c, (conditionBlocks token.text).count c =
    operand.expr.conditions.count c + (replacedInGroup inGroup token).count c

/-- At the beginning there is no condition. -/
theorem Placed.initial : Placed inGroup [] {} where
  kept_eq := rfl
  completes_eq := rfl
  count_eq _ := rfl

/-- What a token adds to the text and what it does to the state keep the count. -/
theorem Placed.snoc (hs : Placed inGroup before s) (hnested : (textOf before).WellNested)
    (hkept : ((before.foldl Slot.next {}).next token).kept = s'.condition)
    (hcompletes : ((before.foldl Slot.next {}).next token).completes =
      (s'.lhs.isSome || s'.op.any fun op => op.category = .unary))
    (hcount : ∀ c, (conditionBlocks token.text).count c + s.conditions.count c =
      s'.conditions.count c + (replacedInGroup inGroup token).count c +
        ((before.foldl Slot.next {}).replaced token).count c) :
    Placed inGroup (before ++ [token]) s' := by
  refine ⟨by simpa using hkept, by simpa using hcompletes, fun c => ?_⟩
  have htext : textOf (before ++ [token]) = textOf before ++ token.text := by simp
  rw [htext, hnested.endsOutside.conditionBlocks_append, replacedFrom_append]
  simp only [replacedFrom, List.count_append, List.append_nil]
  have := hs.count_eq c
  have := hcount c
  omega

/-- A step that reads an operand puts its conditions behind those that are kept. -/
theorem Step.conditions_operand (h : Step settings groups text s token s') (hs : s.BetweenTokens)
    (hread : ReadsOperand settings groups token operand) :
    s'.conditions = s.conditions ++ operand.expr.conditions := by
  obtain ⟨_, _, _, hconditions, _⟩ := h.operand_alike hs (.refl s) hread hread rfl rfl text
  exact hconditions

/-- Nothing but a condition replaces a condition. -/
theorem ReadsOperand.replaced_eq (h : ReadsOperand settings groups token operand) :
    slot.replaced token = [] := by
  cases h <;> rfl

/-- The place behind an operand. -/
theorem ReadsOperand.next_eq (h : ReadsOperand settings groups token operand) :
    slot.next token =
      { kept := if slot.completes then none else slot.kept, completes := true } := by
  cases h <;> rfl

/-- An operand takes the condition exactly if it completes a node. -/
theorem Placed.of_operand (hs : Placed inGroup before s) (hnested : (textOf before).WellNested)
    (hbetween : s.BetweenTokens) (h : Step settings groups text s token s')
    (hread : ReadsOperand settings groups token operand)
    (hplaced : PlacedOperand inGroup token operand) (hlhs' : s'.lhs.isSome)
    (hcondition : s'.condition =
      if s.lhs.isSome || s.op.any fun op => op.category = .unary then none else s.condition) :
    Placed inGroup (before ++ [token]) s' := by
  refine hs.snoc hnested ?_ ?_ fun c => ?_
  · rw [hread.next_eq, hcondition, hs.completes_eq, hs.kept_eq]
  · rw [hread.next_eq, hlhs', Bool.true_or]
  · rw [hread.replaced_eq, h.conditions_operand hbetween hread, List.count_append]
    have := hplaced c
    rw [List.count_nil]
    omega

/-- Every step keeps the count of conditions. -/
theorem Step.placed (h : Step settings groups text s token s') (hbetween : s.BetweenTokens)
    (hnested : (textOf before).WellNested) (hlexed : token.Lexed rest)
    (hoperand : ∀ operand, ReadsOperand settings groups token operand →
      PlacedOperand inGroup token operand)
    (hs : Placed inGroup before s) : Placed inGroup (before ++ [token]) s' := by
  have hstep := h
  cases h with
  | blank b =>
      refine hs.snoc hnested hs.kept_eq hs.completes_eq fun c => ?_
      rw [Token.text_blank, (plain_blank hlexed).conditionBlocks_eq]
      simp [State.conditions, replacedInGroup, Slot.replaced]
  | condition body =>
      refine hs.snoc hnested rfl hs.completes_eq fun c => ?_
      rw [Token.text_condition, Text.conditionBlocks_condition hlexed]
      simp only [State.conditions, State.lhs_withCondition, State.lhs_advance,
        State.condition_withCondition, replacedInGroup, Slot.replaced, hs.kept_eq,
        List.count_append, List.count_nil]
      omega
  | operator op hmode =>
      refine hs.snoc hnested hs.kept_eq ?_ fun c => ?_
      · -- An operator comes at the start, when nothing is kept, or behind an operand.
        simp only [Slot.next, hs.completes_eq, State.lhs_withOperator, State.lhs_advance,
          State.op_withOperator]
        rcases hmode with hmode | ⟨hmode, -⟩
        · obtain ⟨hlhs, hop⟩ := hbetween.start hmode
          simp [hlhs, hop]
        · obtain ⟨hlhs, -⟩ := hbetween.operator hmode
          simp [hlhs]
      · rw [Token.text_operator, (plain_symbol op).conditionBlocks_eq]
        simp [State.conditions, replacedInGroup, Slot.replaced]
  | @left _ operand hmode hread hop hlhs =>
      refine hs.of_operand hnested hbetween hstep hread (hoperand operand hread) rfl ?_
      have hbinary : (s.op.any fun op => op.category = .unary) = false := by
        cases hs : s.op <;> simp_all
      rw [hlhs, hbinary]
      rfl
  | @unary _ operand op node hmode hread hop hunary hheight hnode =>
      refine hs.of_operand hnested hbetween hstep hread (hoperand operand hread) rfl ?_
      simp [State.built, hop, hunary]
  | @binary _ lhs operand op node hmode hread hop hbinary hlhs hheight hnode =>
      refine hs.of_operand hnested hbetween hstep hread (hoperand operand hread) rfl ?_
      simp [State.built, hlhs]

/-- An accepted text has the conditions of its tree and those that are replaced. -/
theorem readNested_conditions (h : readNested settings groups text = .ok root) {limit : Nat}
    (hlimit : text.length ≤ limit) : ∀ c, (conditionBlocks text).count c =
      root.expr.conditions.count c + (replacedWithin limit text).count c := by
  induction groups using Nat.strongRecOn generalizing text root limit with
  | ind groups ih =>
      cases limit with
      | zero =>
          have hnil := List.eq_nil_of_length_eq_zero (Nat.le_zero.1 hlimit)
          exact absurd hnil (ne_nil_of_readNested h)
      | succ limit =>
          -- A group's body is shorter than the text, so the limit suffices for it.
          have hplaced {token : Token} {rest : Text} (hmem : token ∈ tokens text)
              (hlexed : token.Lexed rest) (operand : Operand)
              (hread : ReadsOperand settings groups token operand) :
              PlacedOperand (replacedWithin limit) token operand := by
            intro c
            cases hread with
            | name hne hknown =>
                rw [Token.text_name, (plain_of_isRelationName hlexed.1).conditionBlocks_eq]
                rfl
            | @group inner body operand hne hread =>
                have hlength : body.length ≤ limit := by
                  have := length_text_le hmem
                  rw [Token.text_group] at this
                  simp only [List.length_cons, List.length_append, List.length_nil] at this
                  omega
                rw [Token.text_group,
                  (readNested_wellNested hread).endsOutside.conditionBlocks_group,
                  ih inner (Nat.lt_succ_self inner) hread hlength c]
                simp [Operand.grouped, replacedInGroup]
          obtain ⟨s, hs, hroot, -, hpresent⟩ := readNested_invariant
            (P := fun before s => before <+: tokens text → Placed (replacedWithin limit) before s) h
            (fun _ => .initial) fun {before s token _ _} hreached hnested hlexed hstep hs hpre => by
              have hmem : token ∈ tokens text := hpre.subset (by simp)
              have hbefore := hs ((List.prefix_append before [token]).trans hpre)
              exact hstep.placed hreached.betweenTokens hnested hlexed (hplaced hmem hlexed) hbefore
          intro c
          have := (hs List.prefix_rfl).count_eq c
          simpa [State.conditions, hpresent, hroot, textOf, tokens_text, replacedWithin] using this

/-- The conditions of an accepted text that have something in them are those of its tree and the
replaced ones; so they are those of the tree alone exactly when none is replaced. -/
theorem conditionBlocks_perm_of_read (h : read settings text = .ok n) :
    (conditionBlocks text).Perm (n.conditions ++ replacedConditions text) ∧
      ((conditionBlocks text).Perm n.conditions ↔ replacedConditions text = []) := by
  obtain ⟨root, hread, rfl⟩ := read_eq_ok_iff.1 h
  have hperm : (conditionBlocks text).Perm (root.expr.conditions ++ replacedConditions text) := by
    refine List.perm_iff_count.2 fun c => ?_
    rw [List.count_append, readNested_conditions hread (Nat.le_refl _), replacedConditions]
  refine ⟨hperm, fun hsame => ?_, fun hnone => ?_⟩
  · have hlength := hperm.length_eq
    rw [hsame.length_eq, List.length_append] at hlength
    exact List.eq_nil_of_length_eq_zero (by omega)
  · simpa [hnone] using hperm

/-- Conditions that are replaced outside a group and in it, and one that a node takes. -/
theorem read_replaced_twice : read {} "R {C} {} ∪ (S θ {A} {B} T)".toList =
    .ok (.setOp .union (.named ['R'])
      (.conditionalJoin .thetaJoin ['B'] (.named ['S']) (.named ['T']) "(S θ {A} {B} T)".toList)
      "R {C} {} ∪ (S θ {A} {B} T)".toList) := by
  rfl

/-- An empty condition replaces one, and so does another one in a group. -/
theorem conditionBlocks_perm_of_read_replaced_twice :
    ∃ n, read {} "R {C} {} ∪ (S θ {A} {B} T)".toList = .ok n ∧ n.conditions = [['B']] ∧
      replacedConditions "R {C} {} ∪ (S θ {A} {B} T)".toList = [['C'], ['A']] ∧
      (conditionBlocks "R {C} {} ∪ (S θ {A} {B} T)".toList).Perm
        (n.conditions ++ replacedConditions "R {C} {} ∪ (S θ {A} {B} T)".toList) ∧
      ((conditionBlocks "R {C} {} ∪ (S θ {A} {B} T)".toList).Perm n.conditions ↔
        replacedConditions "R {C} {} ∪ (S θ {A} {B} T)".toList = []) :=
  ⟨_, read_replaced_twice, by decide, by decide, conditionBlocks_perm_of_read read_replaced_twice⟩

/-- A condition behind a relation that an empty one replaces. -/
theorem read_emptied_condition : read {} "R {A} {}".toList = .ok (.named ['R']) := by
  rfl

/-- Not every condition that has something in it is the condition of a node. -/
theorem not_conditionBlocks_perm : ¬ ∀ text n, read {} text = .ok n →
    (conditionBlocks text).Perm n.conditions := by
  intro h
  exact absurd (h _ _ read_emptied_condition).length_eq (by decide)

end Syntax

end RelQuery
