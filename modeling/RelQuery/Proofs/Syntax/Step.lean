import RelQuery.Syntax.Read

/-!
# What the reader does with one token

`Step` has one constructor for each thing that the reader can do with a token, and
`step_eq_ok_iff` says that these are what the machine's `step` does from the states between two
tokens. `Reached` collects the steps from the beginning of a text; `readNested_eq_ok_iff` reads
acceptance of a text off it. What every step preserves holds whenever a text is accepted, by
induction on `Reached`.
-/

namespace RelQuery.Syntax

/-- The reader of groups when `groups` groups may still be opened one inside another. -/
def groupReader (settings : Settings) : (groups : Nat) → GroupReader
  | 0 => none
  | groups + 1 => some (readNested settings groups)

/-- A text is read with the reader for the groups that may still be opened. -/
theorem readNested_eq_readWith (settings : Settings) (groups : Nat) (text : Text) :
    readNested settings groups text = readWith settings (groupReader settings groups) text := by
  cases groups <;> rfl

/-- What the reader keeps between two tokens: nothing at the start, behind an operator the operator
and the left operand of a binary one, behind an operand the operand and at most a binary operator
that came before it. -/
structure State.BetweenTokens (s : State) : Prop where
  not_build : s.mode ≠ .build
  right_eq : s.right = none
  rightHeight_eq : s.rightHeight = 0
  start : s.mode = .start → s.lhs = none ∧ s.op = none
  operand : s.mode = .operand → ∃ op, s.op = some op ∧ (op.category = .unary → s.lhs = none)
  operator : s.mode = .operator → s.lhs.isSome ∧ ∀ op ∈ s.op, op.category ≠ .unary

/-- The operand is what the token stands for when `groups` groups may be opened. -/
inductive ReadsOperand (settings : Settings) : (groups : Nat) → Token → Operand → Prop where
  | name {groups : Nat} {word : Text} (hne : word ≠ []) (hknown : settings.allows word) :
      ReadsOperand settings groups (.name word) ⟨.named word, 1⟩
  | group {groups : Nat} {body : Text} {operand : Operand} (hne : body ≠ [])
      (hread : readNested settings groups body = .ok operand) :
      ReadsOperand settings (groups + 1) (.group body) operand.grouped

/-- The state once an operand is complete and its operator is still to come. -/
def State.holding (s : State) (operand : Operand) : State :=
  { s with mode := .operator, left := some operand.expr, leftHeight := operand.height }

/-- The state once a node has been built. -/
def State.built (s : State) (operand : Operand) : State :=
  { s with
    mode := .operator
    left := some operand.expr
    leftHeight := operand.height
    right := none
    rightHeight := 0
    op := none
    condition := none }

/-- What the reader can do with a token. -/
inductive Step (settings : Settings) (groups : Nat) (text : Text) :
    State → Token → State → Prop where
  | blank (s : State) (c : Char) : Step settings groups text s (.blank c) (s.advance (.blank c))
  | condition (s : State) (body : Text) :
      Step settings groups text s (.condition body)
        ((s.advance (.condition body)).withCondition body)
  | operator (s : State) (op : Operator)
      (hmode : s.mode = .start ∨ s.mode = .operator ∧ op.category ≠ .unary) :
      Step settings groups text s (.operator op) ((s.advance (.operator op)).withOperator op)
  | left (s : State) {token : Token} {operand : Operand}
      (hmode : s.mode = .start ∨ s.mode = .operand)
      (hread : ReadsOperand settings groups token operand)
      (hop : ∀ op ∈ s.op, op.category ≠ .unary) (hlhs : s.lhs = none) :
      Step settings groups text s token ((s.advance token).holding operand)
  | unary (s : State) {token : Token} {operand : Operand} {op : Operator} {node : Expr}
      (hmode : s.mode = .operand) (hread : ReadsOperand settings groups token operand)
      (hop : s.op = some op) (hunary : op.category = .unary)
      (hheight : 1 + operand.height ≤ settings.maxTreeDepth)
      (hnode : Expr.assemble op (some operand.expr) none s.condition
        (text.take (s.advance token).position) = .ok node) :
      Step settings groups text s token ((s.advance token).built ⟨node, 1 + operand.height⟩)
  | binary (s : State) {token : Token} {lhs operand : Operand} {op : Operator} {node : Expr}
      (hmode : s.mode = .operand) (hread : ReadsOperand settings groups token operand)
      (hop : s.op = some op) (hbinary : op.category ≠ .unary) (hlhs : s.lhs = some lhs)
      (hheight : 1 + max lhs.height operand.height ≤ settings.maxTreeDepth)
      (hnode : Expr.assemble op (some lhs.expr) (some operand.expr) s.condition
        (text.take (s.advance token).position) = .ok node) :
      Step settings groups text s token
        ((s.advance token).built ⟨node, 1 + max lhs.height operand.height⟩)

variable {settings : Settings} {groups : Nat} {text : Text} {s s' : State} {token : Token}

/-! ## The parts of a state -/

namespace State

/-- There is no operand on the left if there is no tree on the left. -/
theorem lhs_eq_none_iff : s.lhs = none ↔ s.left = none :=
  Option.map_eq_none_iff

/-- The operand on the left is the tree there with its height. -/
theorem lhs_eq_some_iff {operand : Operand} :
    s.lhs = some operand ↔ s.left = some operand.expr ∧ s.leftHeight = operand.height := by
  cases hleft : s.left with
  | none => simp [lhs, hleft]
  | some expr =>
      rw [lhs, hleft, Option.map_some, Option.some_inj, Option.some_inj, Operand.mk.injEq]

/-- Going past a token keeps the left operand. -/
@[simp] theorem lhs_advance : (s.advance token).lhs = s.lhs := rfl

/-- A condition leaves the left operand alone. -/
@[simp] theorem lhs_withCondition {condition : Text} :
    (s.withCondition condition).lhs = s.lhs := rfl

/-- So does an operator. -/
@[simp] theorem lhs_withOperator {op : Operator} : (s.withOperator op).lhs = s.lhs := rfl

/-- The operand that is held is the left one. -/
@[simp] theorem lhs_holding {operand : Operand} : (s.holding operand).lhs = some operand := rfl

/-- The node that is built becomes the left operand. -/
@[simp] theorem lhs_built {operand : Operand} : (s.built operand).lhs = some operand := rfl

/-- Going past a token keeps the operator. -/
@[simp] theorem op_advance : (s.advance token).op = s.op := rfl

/-- The operator that was read last is the one that counts. -/
@[simp] theorem op_withOperator {op : Operator} : (s.withOperator op).op = some op := rfl

/-- An operand that is held waits with the operator there is. -/
@[simp] theorem op_holding {operand : Operand} : (s.holding operand).op = s.op := rfl

/-- The operator has gone into the node. -/
@[simp] theorem op_built {operand : Operand} : (s.built operand).op = none := rfl

/-- Going past a token keeps the condition. -/
@[simp] theorem condition_advance : (s.advance token).condition = s.condition := rfl

/-- The condition that was read last is the one that counts. -/
@[simp] theorem condition_withCondition {condition : Text} :
    (s.withCondition condition).condition = some condition := rfl

/-- An operator leaves the condition alone. -/
@[simp] theorem condition_withOperator {op : Operator} :
    (s.withOperator op).condition = s.condition := rfl

/-- So does an operand that is held. -/
@[simp] theorem condition_holding {operand : Operand} :
    (s.holding operand).condition = s.condition := rfl

/-- The condition has gone into the node. -/
@[simp] theorem condition_built {operand : Operand} : (s.built operand).condition = none := rfl

end State

/-! ## The machine -/

/-- At the beginning nothing has been read. -/
theorem State.BetweenTokens.initial : State.BetweenTokens {} where
  not_build := by decide
  right_eq := rfl
  rightHeight_eq := rfl
  start _ := ⟨rfl, rfl⟩
  operand h := by cases h
  operator h := by cases h

/-- There is nothing to build in the other modes. -/
theorem settle_of_ne_build (h : s.mode ≠ .build) : settle settings text s = .ok s := by
  simp [settle, h]

/-- An operand that is held builds nothing. -/
theorem settle_holding {operand : Operand} :
    settle settings text (s.holding operand) = .ok (s.holding operand) :=
  settle_of_ne_build nofun

/-- Neither does an operator. -/
theorem settle_withOperator {op : Operator} :
    settle settings text (s.withOperator op) = .ok (s.withOperator op) :=
  settle_of_ne_build nofun

/-- A token that is an operand is taken where one is expected. -/
theorem accept_operand {operand : Operand} (hmode : s.mode = .start ∨ s.mode = .operand)
    (hread : ReadsOperand settings groups token operand) :
    accept settings (groupReader settings groups) s token =
      .ok ((s.advance token).withOperand operand) := by
  cases hread with
  | name hne hknown =>
      rcases hmode with hmode | hmode <;>
        simp [accept, hmode, acceptName, List.isEmpty_eq_false_iff.2 hne, hknown]
  | group hne hread =>
      rcases hmode with hmode | hmode <;>
        simp [accept, hmode, acceptGroup, List.isEmpty_eq_false_iff.2 hne, groupReader, hread]

/-- An operator that is accepted is kept, and a unary one has been accepted at the start. -/
theorem acceptOperator_eq_ok {op : Operator} (h : acceptOperator s op = .ok s') :
    (op.category = .unary → s.mode = .start) ∧
      s' = (s.advance (.operator op)).withOperator op := by
  unfold acceptOperator at h
  split at h
  · cases h
  · rename_i hplace
    cases h
    exact ⟨fun hunary => Decidable.of_not_not fun hmode => hplace ⟨hunary, hmode⟩, rfl⟩

/-- A name that is accepted is an operand. -/
theorem acceptName_eq_ok {word : Text} (h : acceptName settings s word = .ok s') :
    ∃ operand, ReadsOperand settings groups (.name word) operand ∧
      s' = (s.advance (.name word)).withOperand operand := by
  unfold acceptName at h
  split at h
  · cases h
  · rename_i hempty
    split at h
    · rename_i hknown
      cases h
      exact ⟨_, .name (by simpa using hempty) hknown, rfl⟩
    · cases h

/-- A group that is accepted is an operand: its body has been read. -/
theorem acceptGroup_eq_ok {body : Text}
    (h : acceptGroup settings (groupReader settings groups) s body = .ok s') :
    ∃ operand, ReadsOperand settings groups (.group body) operand ∧
      s' = (s.advance (.group body)).withOperand operand := by
  unfold acceptGroup at h
  split at h
  · cases h
  · rename_i hempty
    cases groups with
    | zero => cases h
    | succ groups =>
        simp only [groupReader] at h
        cases hread : readNested settings groups body with
        | error e => simp [hread] at h
        | ok operand =>
            simp only [hread] at h
            cases h
            exact ⟨_, .group (by simpa using hempty) hread, rfl⟩

/-- What an accepted token is and what it leads to. -/
theorem accept_cases (h : accept settings (groupReader settings groups) s token = .ok s') :
    (∃ c, token = .blank c ∧ s' = s.advance token) ∨
    (∃ body, token = .condition body ∧ s' = (s.advance token).withCondition body) ∨
    (∃ op, token = .operator op ∧ (s.mode = .start ∨ s.mode = .operator ∧ op.category ≠ .unary) ∧
      s' = (s.advance token).withOperator op) ∨
    ∃ operand, ReadsOperand settings groups token operand ∧
      (s.mode = .start ∨ s.mode = .operand) ∧ s' = (s.advance token).withOperand operand := by
  cases token with
  | blank c =>
      cases h
      exact .inl ⟨c, rfl, rfl⟩
  | condition body =>
      cases h
      exact .inr (.inl ⟨body, rfl, rfl⟩)
  | operator op =>
      refine .inr (.inr (.inl ⟨op, rfl, ?_⟩))
      cases hmode : s.mode with
      | start =>
          simp only [accept, hmode] at h
          exact ⟨.inl rfl, (acceptOperator_eq_ok h).2⟩
      | operator =>
          simp only [accept, hmode] at h
          obtain ⟨hstart, rfl⟩ := acceptOperator_eq_ok h
          refine ⟨.inr ⟨rfl, fun hunary => ?_⟩, rfl⟩
          cases (hstart hunary).symm.trans hmode
      | operand => simp [accept, hmode, State.fail] at h
      | build => simp [accept, hmode, State.fail] at h
  | name word =>
      refine .inr (.inr (.inr ?_))
      cases hmode : s.mode with
      | start =>
          simp only [accept, hmode] at h
          obtain ⟨operand, hread, rfl⟩ := acceptName_eq_ok h
          exact ⟨operand, hread, .inl rfl, rfl⟩
      | operand =>
          simp only [accept, hmode] at h
          obtain ⟨operand, hread, rfl⟩ := acceptName_eq_ok h
          exact ⟨operand, hread, .inr rfl, rfl⟩
      | operator => simp [accept, hmode, State.fail] at h
      | build => simp [accept, hmode, State.fail] at h
  | group body =>
      refine .inr (.inr (.inr ?_))
      cases hmode : s.mode with
      | start =>
          simp only [accept, hmode] at h
          obtain ⟨operand, hread, rfl⟩ := acceptGroup_eq_ok h
          exact ⟨operand, hread, .inl rfl, rfl⟩
      | operand =>
          simp only [accept, hmode] at h
          obtain ⟨operand, hread, rfl⟩ := acceptGroup_eq_ok h
          exact ⟨operand, hread, .inr rfl, rfl⟩
      | operator => simp [accept, hmode, State.fail] at h
      | build => simp [accept, hmode, State.fail] at h
  | openCondition rest => simp [accept, State.fail] at h
  | openGroup rest => cases hmode : s.mode <;> simp [accept, hmode, State.fail] at h
  | other c => simp [accept, State.fail] at h

/-- A node is built from its operator and its operands if the tree does not grow too high. -/
theorem build_eq_ok_iff {op : Operator} (hop : s.op = some op) :
    build settings text s = .ok s' ↔
      1 + max s.leftHeight s.rightHeight ≤ settings.maxTreeDepth ∧
        ∃ node, Expr.assemble op s.left s.right s.condition (text.take s.position) = .ok node ∧
          s' = s.built ⟨node, 1 + max s.leftHeight s.rightHeight⟩ := by
  simp only [build, hop]
  split
  · rename_i hheight
    simp [State.fail, Nat.not_le.2 hheight]
  · rename_i hheight
    split
    · rename_i hnode
      simp [State.fail, hnode]
    · rename_i node hnode
      simp [hnode, State.built, Nat.not_lt.1 hheight, eq_comm]

/-- The operand of a unary operator is its only one, and completes the node. -/
theorem withOperand_unary {operand : Operand} {op : Operator} (hop : s.op = some op)
    (hunary : op.category = .unary) :
    s.withOperand operand =
      { s with left := some operand.expr, leftHeight := operand.height, mode := .build } := by
  simp [State.withOperand, hop, hunary]

/-- Without such an operator the first operand is the left one. -/
theorem withOperand_left {operand : Operand} (hop : ∀ op ∈ s.op, op.category ≠ .unary)
    (hlhs : s.lhs = none) : s.withOperand operand = s.holding operand := by
  rw [State.lhs_eq_none_iff] at hlhs
  cases h : s.op <;> simp_all [State.withOperand, State.holding]

/-- The second operand is the right one, and completes the node. -/
theorem withOperand_right {operand lhs : Operand} {op : Operator} (hop : s.op = some op)
    (hbinary : op.category ≠ .unary) (hlhs : s.lhs = some lhs) :
    s.withOperand operand =
      { s with right := some operand.expr, rightHeight := operand.height, mode := .build } := by
  simp [State.withOperand, hop, hbinary, (State.lhs_eq_some_iff.1 hlhs).1]

/-- An operand is held, or it completes a node. -/
theorem settle_withOperand {operand : Operand} (hs : s.BetweenTokens)
    (hmode : s.mode = .start ∨ s.mode = .operand)
    (hread : ReadsOperand settings groups token operand)
    (h : settle settings text ((s.advance token).withOperand operand) = .ok s') :
    Step settings groups text s token s' := by
  have hleft (hop : ∀ op ∈ s.op, op.category ≠ .unary) (hlhs : s.lhs = none) :
      Step settings groups text s token s' := by
    rw [withOperand_left (s := s.advance token) hop hlhs, settle_holding] at h
    cases h
    exact .left s hmode hread hop hlhs
  rcases hmode with hstart | hoperand
  · obtain ⟨hlhs, hop⟩ := hs.start hstart
    exact hleft (by simp [hop]) hlhs
  obtain ⟨op, hop, hlhs⟩ := hs.operand hoperand
  -- A unary operator takes the operand at once, a binary one takes it if it is the second.
  by_cases hunary : op.category = .unary
  · rw [withOperand_unary (s := s.advance token) hop hunary, settle, if_pos rfl] at h
    obtain ⟨hheight, node, hnode, rfl⟩ := (build_eq_ok_iff (by exact hop)).1 h
    simp only [State.advance, hs.right_eq, hs.rightHeight_eq, Nat.max_zero] at hheight hnode
    have := Step.unary s hoperand hread hop hunary hheight hnode
    simpa [State.advance, State.built, hs.rightHeight_eq] using this
  · cases hheld : s.lhs with
    | none => exact hleft (by simpa [hop] using hunary) hheld
    | some lhs =>
        rw [withOperand_right (s := s.advance token) hop hunary hheld, settle, if_pos rfl] at h
        obtain ⟨hheight, node, hnode, rfl⟩ := (build_eq_ok_iff (by exact hop)).1 h
        obtain ⟨hleft, hleftHeight⟩ := State.lhs_eq_some_iff.1 hheld
        simp only [State.advance, hleft, hleftHeight] at hheight hnode
        have := Step.binary s hoperand hread hop hunary hheld hheight hnode
        simpa [State.advance, State.built, hleftHeight] using this

/-- The reader takes every step that it should. -/
theorem Step.step_eq (hs : s.BetweenTokens) (h : Step settings groups text s token s') :
    step settings (groupReader settings groups) text s token = .ok s' := by
  unfold step
  cases h with
  | blank c => exact settle_of_ne_build hs.not_build
  | condition body => exact settle_of_ne_build hs.not_build
  | operator op hmode =>
      have haccept : accept settings (groupReader settings groups) s (.operator op) =
          .ok ((s.advance (.operator op)).withOperator op) := by
        rcases hmode with hmode | ⟨hmode, hbinary⟩
        · simp [accept, hmode, acceptOperator]
        · simp [accept, hmode, acceptOperator, hbinary]
      rw [haccept]
      exact settle_withOperator
  | left hmode hread hop hlhs =>
      rw [accept_operand hmode hread, withOperand_left (s := s.advance token) hop hlhs]
      exact settle_holding
  | @unary _ operand op node hmode hread hop hunary hheight hnode =>
      rw [accept_operand (.inr hmode) hread, withOperand_unary (s := s.advance token) hop hunary]
      refine (build_eq_ok_iff (by exact hop)).2 ⟨?_, node, ?_, ?_⟩
      · simpa [State.advance, hs.rightHeight_eq] using hheight
      · simpa [State.advance, hs.right_eq] using hnode
      · simp [State.advance, State.built, hs.rightHeight_eq]
  | @binary _ lhs operand op node hmode hread hop hbinary hlhs hheight hnode =>
      rw [accept_operand (.inr hmode) hread,
        withOperand_right (s := s.advance token) hop hbinary hlhs]
      obtain ⟨hleft, hleftHeight⟩ := State.lhs_eq_some_iff.1 hlhs
      refine (build_eq_ok_iff (by exact hop)).2 ⟨?_, node, ?_, ?_⟩
      · simpa [State.advance, hleftHeight] using hheight
      · simpa [State.advance, hleft] using hnode
      · simp [State.advance, State.built, hleftHeight]

/-- Between two tokens the machine does what `Step` says and nothing else. -/
theorem step_eq_ok_iff (hs : s.BetweenTokens) :
    step settings (groupReader settings groups) text s token = .ok s' ↔
      Step settings groups text s token s' := by
  refine ⟨fun h => ?_, fun h => h.step_eq hs⟩
  cases haccept : accept settings (groupReader settings groups) s token with
  | error e =>
      rw [step, haccept] at h
      cases h
  | ok taken =>
      rw [step, haccept] at h
      change settle settings text taken = .ok s' at h
      rcases accept_cases haccept with ⟨c, rfl, rfl⟩ | ⟨body, rfl, rfl⟩ | ⟨op, rfl, hmode, rfl⟩ |
        ⟨operand, hread, hmode, rfl⟩
      · rw [settle_of_ne_build (by exact hs.not_build)] at h
        cases h
        exact .blank s c
      · rw [settle_of_ne_build (by exact hs.not_build)] at h
        cases h
        exact .condition s body
      · rw [settle_withOperator] at h
        cases h
        exact .operator s op hmode
      · exact settle_withOperand hs hmode hread h

/-- A step leads from between two tokens to between two tokens. -/
theorem Step.betweenTokens (hs : s.BetweenTokens) (h : Step settings groups text s token s') :
    s'.BetweenTokens := by
  cases h with
  | blank c =>
      exact ⟨hs.not_build, hs.right_eq, hs.rightHeight_eq, hs.start, hs.operand, hs.operator⟩
  | condition body =>
      exact ⟨hs.not_build, hs.right_eq, hs.rightHeight_eq, hs.start, hs.operand, hs.operator⟩
  | operator op hmode =>
      refine ⟨nofun, hs.right_eq, hs.rightHeight_eq, nofun, fun _ => ⟨op, rfl, fun hunary => ?_⟩,
        nofun⟩
      rcases hmode with hmode | ⟨-, hbinary⟩
      · exact (hs.start hmode).1
      · exact absurd hunary hbinary
  | left hmode hread hop hlhs =>
      exact ⟨nofun, hs.right_eq, hs.rightHeight_eq, nofun, nofun, fun _ => ⟨rfl, hop⟩⟩
  | unary => exact ⟨nofun, rfl, rfl, nofun, nofun, fun _ => ⟨rfl, nofun⟩⟩
  | binary => exact ⟨nofun, rfl, rfl, nofun, nofun, fun _ => ⟨rfl, nofun⟩⟩

/-! ## Runs -/

/-- The reader comes from the beginning of a text to a state by these tokens. -/
inductive Reached (settings : Settings) (groups : Nat) (text : Text) :
    List Token → State → Prop where
  | initial : Reached settings groups text [] {}
  | snoc {before : List Token} {s s' : State} {token : Token}
      (hreached : Reached settings groups text before s)
      (hstep : Step settings groups text s token s') :
      Reached settings groups text (before ++ [token]) s'

/-- Whatever has been read, the reader is between two tokens. -/
theorem Reached.betweenTokens {before : List Token} (h : Reached settings groups text before s) :
    s.BetweenTokens := by
  induction h with
  | initial => exact .initial
  | snoc _ hstep ih => exact hstep.betweenTokens ih

/-- A run that takes a token comes to the state behind it by a step. -/
theorem Reached.of_append_singleton {before : List Token}
    (h : Reached settings groups text (before ++ [token]) s') :
    ∃ s, Reached settings groups text before s ∧ Step settings groups text s token s' := by
  generalize htoks : before ++ [token] = toks at h
  cases h with
  | initial => simp at htoks
  | @snoc front s _ last hreached hstep =>
      obtain ⟨rfl, hlast⟩ := List.append_inj' htoks rfl
      cases hlast
      exact ⟨s, hreached, hstep⟩

/-- A step goes past just its token. -/
theorem Step.position_eq (h : Step settings groups text s token s') :
    s'.position = s.position + token.text.length := by
  cases h <;> rfl

/-- Reading a row of tokens is a step for the first one and reading the others from there. -/
theorem readTokens_cons_eq_ok_iff {readGroup : GroupReader} {toks : List Token} :
    readTokens settings readGroup text s (token :: toks) = .ok s' ↔
      ∃ middle, step settings readGroup text s token = .ok middle ∧
        readTokens settings readGroup text middle toks = .ok s' := by
  rw [readTokens]
  cases step settings readGroup text s token with
  | error e => simp [Except.bind]
  | ok middle => simp [Except.bind]

/-- Reading goes on with the second part of a row from where the first one has led. -/
theorem readTokens_append {readGroup : GroupReader} {before toks : List Token} {middle : State}
    (h : readTokens settings readGroup text s before = .ok middle) :
    readTokens settings readGroup text s (before ++ toks) =
      readTokens settings readGroup text middle toks := by
  induction before generalizing s with
  | nil =>
      cases h
      rfl
  | cons token before ih =>
      obtain ⟨next, hstep, hrest⟩ := readTokens_cons_eq_ok_iff.1 h
      rw [List.cons_append, readTokens, hstep]
      exact ih hrest

/-- A run that goes on with further tokens is a run over both. -/
theorem Reached.append {before toks : List Token} (h : Reached settings groups text before s)
    (hread : readTokens settings (groupReader settings groups) text s toks = .ok s') :
    Reached settings groups text (before ++ toks) s' := by
  induction toks generalizing before s with
  | nil =>
      cases hread
      simpa using h
  | cons token toks ih =>
      obtain ⟨middle, hstep, hrest⟩ := readTokens_cons_eq_ok_iff.1 hread
      have := ih (h.snoc ((step_eq_ok_iff h.betweenTokens).1 hstep)) hrest
      simpa using this

/-- The runs of the machine are the chains of steps from the beginning. -/
theorem reached_iff {toks : List Token} :
    Reached settings groups text toks s ↔
      readTokens settings (groupReader settings groups) text {} toks = .ok s := by
  refine ⟨fun h => ?_, fun h => by simpa using Reached.initial.append h⟩
  induction h with
  | initial => rfl
  | snoc hreached hstep ih =>
      rw [readTokens_append ih]
      exact readTokens_cons_eq_ok_iff.2 ⟨_, hstep.step_eq hreached.betweenTokens, rfl⟩

/-- What may be left at the end of a text. -/
theorem finish_eq_ok_iff {root : Operand} :
    finish s = .ok root ↔ s.lhs = some root ∧ s.op = none ∧ s.right = none ∧
      Expr.presentCondition s.condition = none := by
  unfold finish
  cases s.lhs with
  | none => simp
  | some operand =>
      cases hop : s.op <;> cases hright : s.right <;>
        cases hcondition : Expr.presentCondition s.condition <;> simp

/-- A text is accepted if its tokens lead to a state in which only the result is left. -/
theorem readNested_eq_ok_iff {root : Operand} :
    readNested settings groups text = .ok root ↔
      ∃ s, Reached settings groups text (tokens text) s ∧ s.lhs = some root ∧ s.op = none ∧
        Expr.presentCondition s.condition = none := by
  rw [readNested_eq_readWith, readWith]
  constructor
  · intro h
    cases hread : readTokens settings (groupReader settings groups) text {} (tokens text) with
    | error e =>
        rw [hread] at h
        cases h
    | ok s =>
        rw [hread] at h
        obtain ⟨hlhs, hop, -, hcondition⟩ := finish_eq_ok_iff.1 h
        exact ⟨s, reached_iff.2 hread, hlhs, hop, hcondition⟩
  · rintro ⟨s, hreached, hlhs, hop, hcondition⟩
    rw [reached_iff.1 hreached]
    exact finish_eq_ok_iff.2 ⟨hlhs, hop, hreached.betweenTokens.right_eq, hcondition⟩

/-- There is nothing to read in an empty text. -/
theorem ne_nil_of_readNested {root : Operand} (h : readNested settings groups text = .ok root) :
    text ≠ [] := by
  intro hnil
  subst hnil
  cases groups <;> cases h

/-- An expression is what is left of its text with as many groups as the settings allow. -/
theorem read_eq_ok_iff {e : Expr} :
    read settings text = .ok e ↔
      ∃ root, readNested settings settings.maxDepth text = .ok root ∧ root.expr = e := by
  rw [read]
  cases readNested settings settings.maxDepth text with
  | error cause => simp [Except.map]
  | ok root => simp [Except.map]

/-- An expression is refused as its text is with as many groups as the settings allow. -/
theorem read_eq_error_iff {e : ReadError} :
    read settings text = .error e ↔ readNested settings settings.maxDepth text = .error e := by
  rw [read]
  cases readNested settings settings.maxDepth text with
  | error cause => simp [Except.map]
  | ok root => simp [Except.map]

end RelQuery.Syntax
