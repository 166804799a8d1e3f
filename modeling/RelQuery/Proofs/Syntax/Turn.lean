import RelQuery.Proofs.Syntax.Sound

/-!
# Turns of the reader's loop

In a turn of its loop the reader builds the node that is due, or else takes the next token. `Turn`
collects the states in which a turn begins, with the tokens that are still to be read; reading on
from any of them gives what the text is read as (`Turn.read_eq`). `State.Consistent` says what is
kept in each mode, and `reader_invariant` that this holds at every turn, so that the errors about a
node with parts missing and about a name with no characters never come up. `Refuses`, `CannotBuild`
and `LeavesOver` list the errors of a turn, and `exists_endsIn` says that there are no others: so a
relation is refused only if it may not be mentioned (`onlyUnknown_read`).
-/

namespace RelQuery.Syntax

/-- The state in which a turn of the loop begins, and the tokens that have not been read then. -/
inductive Turn (settings : Settings) (groups : Nat) (text : Text) : State → List Token → Prop where
  | first : Turn settings groups text {} (tokens text)
  | afterToken {s s' : State} {token : Token} {rest : List Token}
      (hturn : Turn settings groups text s (token :: rest)) (hmode : s.mode ≠ .build)
      (haccept : accept settings (groupReader settings groups) s token = .ok s') :
      Turn settings groups text s' rest
  | afterBuild {s s' : State} {rest : List Token} (hturn : Turn settings groups text s rest)
      (hmode : s.mode = .build) (hbuild : build settings text s = .ok s') :
      Turn settings groups text s' rest

/-- What the reader keeps in each mode: nothing at the start, behind an operator the operator and
the left operand of a binary one, behind an operand the operand and at most a binary operator that
came before it, and in mode `build` all operands of the operator and no others. The height kept
beside an operand is the height of its tree, and none is left over of a right operand that is gone.
-/
structure State.Consistent (s : State) : Prop where
  start : s.mode = .start → s.left = none ∧ s.right = none ∧ s.op = none
  operand : s.mode = .operand →
    s.right = none ∧ ∃ op, s.op = some op ∧ (op.category = .unary → s.left = none)
  operator : s.mode = .operator →
    s.left.isSome ∧ s.right = none ∧ ∀ op ∈ s.op, op.category ≠ .unary
  build : s.mode = .build →
    s.left.isSome ∧ ∃ op, s.op = some op ∧ (s.right.isSome ↔ op.category ≠ .unary)
  left_height : ∀ e ∈ s.left, s.leftHeight = e.height
  right_height : ∀ e ∈ s.right, s.rightHeight = e.height
  no_right : s.right = none → s.rightHeight = 0

/-! ## Errors of a turn -/

/-- The tokens that the reader does not expect in a mode. -/
def Mode.Unexpected (mode : Mode) : Token → Prop
  | .operator _ => mode = .operand ∨ mode = .build
  | .name _ | .group _ | .openGroup _ => mode = .operator ∨ mode = .build
  | .other _ => True
  | _ => False

/-- Why a token is refused when `groups` groups may be opened, and the error that says so. -/
inductive Refuses (settings : Settings) : (groups : Nat) → State → Token → ReadError → Prop where
  | openCondition {groups : Nat} {s : State} {rest : Text} :
      Refuses settings groups s (.openCondition rest)
        ⟨.openCondition, s.position, some '{', s.mode⟩
  | misplacedUnary {groups : Nat} {s : State} {op : Operator} (hunary : op.category = .unary)
      (hmode : s.mode = .operator) :
      Refuses settings groups s (.operator op)
        ⟨.misplacedUnary, s.position, some op.symbol, s.mode⟩
  | openGroup {groups : Nat} {s : State} {rest : Text}
      (hmode : s.mode = .start ∨ s.mode = .operand) :
      Refuses settings groups s (.openGroup rest)
        ⟨.unbalancedParenthesis, s.position, some '(', s.mode⟩
  | emptyGroup {groups : Nat} {s : State} (hmode : s.mode = .start ∨ s.mode = .operand) :
      Refuses settings groups s (.group []) ⟨.emptyGroup, s.position, some '(', s.mode⟩
  | nestedTooDeep {s : State} {body : Text} (hmode : s.mode = .start ∨ s.mode = .operand)
      (hne : body ≠ []) :
      Refuses settings 0 s (.group body)
        ⟨.nestedTooDeep settings.maxDepth, s.position, some '(', s.mode⟩
  | inGroup {groups : Nat} {s : State} {body : Text} {e : ReadError}
      (hmode : s.mode = .start ∨ s.mode = .operand)
      (hread : readNested settings groups body = .error e) :
      Refuses settings (groups + 1) s (.group body) e
  | emptyName {groups : Nat} {s : State} (hmode : s.mode = .start ∨ s.mode = .operand) :
      Refuses settings groups s (.name []) ⟨.emptyName, s.position, none, s.mode⟩
  | unknownRelation {groups : Nat} {s : State} {word : Text}
      (hmode : s.mode = .start ∨ s.mode = .operand) (hne : word ≠ [])
      (hunknown : settings.allows word = false) :
      Refuses settings groups s (.name word)
        ⟨.unknownRelation word, s.position, word.head?, s.mode⟩
  | unexpected {groups : Nat} {s : State} {token : Token} (hmode : s.mode.Unexpected token) :
      Refuses settings groups s token ⟨.unexpectedToken, s.position, token.text.head?, s.mode⟩

/-- Why a node cannot be built, and the error that says so. -/
inductive CannotBuild (settings : Settings) (text : Text) (s : State) : ReadError → Prop where
  | noOperator (hop : s.op = none) :
      CannotBuild settings text s ⟨.missingOperator, s.position, none, s.mode⟩
  | tooHigh {op : Operator} (hop : s.op = some op)
      (hheight : settings.maxTreeDepth < 1 + max s.leftHeight s.rightHeight) :
      CannotBuild settings text s
        ⟨.treeTooHigh settings.maxTreeDepth, s.position, none, s.mode⟩
  | defect {op : Operator} {defect : Expr.Defect} (hop : s.op = some op)
      (hnode : Expr.assemble op s.left s.right s.condition (text.take s.position) =
        .error defect) :
      CannotBuild settings text s ⟨.defect defect, s.position, none, s.mode⟩

/-- Why the text cannot end in a state, and the error that says so. -/
inductive LeavesOver (s : State) : ReadError → Prop where
  | noRelation (hlhs : s.lhs = none) : LeavesOver s ⟨.noRelation, s.position, none, s.mode⟩
  | unfinished (hlhs : s.lhs.isSome) : LeavesOver s ⟨.unfinished, s.position, none, s.mode⟩

/-- With what reading ends in a turn that begins with these tokens still to be read. -/
inductive EndsIn (settings : Settings) (groups : Nat) (text : Text) (s : State) :
    List Token → Except ReadError Operand → Prop where
  | refused {token : Token} {rest : List Token} {e : ReadError} (hmode : s.mode ≠ .build)
      (h : Refuses settings groups s token e) :
      EndsIn settings groups text s (token :: rest) (.error e)
  | unbuilt {rest : List Token} {e : ReadError} (hmode : s.mode = .build)
      (h : CannotBuild settings text s e) : EndsIn settings groups text s rest (.error e)
  | leftOver {e : ReadError} (hmode : s.mode ≠ .build) (h : LeavesOver s e) :
      EndsIn settings groups text s [] (.error e)
  | finished {root : Operand} (hmode : s.mode ≠ .build) (h : finish s = .ok root) :
      EndsIn settings groups text s [] (.ok root)

variable {settings : Settings} {groups : Nat} {text : Text} {s s' : State} {token : Token}
variable {rest : List Token} {e : ReadError} {operand : Operand} {op : Operator}

/-- Behind an operand only a unary operator is refused. -/
theorem acceptOperator_error (h : acceptOperator s op = .error e) (hmode : s.mode = .operator) :
    Refuses settings groups s (.operator op) e := by
  unfold acceptOperator at h
  split at h
  · rename_i hplace
    cases h
    exact .misplacedUnary hplace.1 hmode
  · cases h

/-- A name that is refused where an operand is expected is empty or unknown. -/
theorem acceptName_error {word : Text} (h : acceptName settings s word = .error e)
    (hmode : s.mode = .start ∨ s.mode = .operand) :
    Refuses settings groups s (.name word) e := by
  unfold acceptName at h
  split at h
  · rename_i hempty
    cases List.isEmpty_iff.1 hempty
    cases h
    exact .emptyName hmode
  · rename_i hne
    split at h
    · cases h
    · rename_i hunknown
      cases h
      exact .unknownRelation hmode (by simpa using hne) (by simpa using hunknown)

/-- A group that is refused there is empty, too deep, or has an error inside. -/
theorem acceptGroup_error {body : Text}
    (h : acceptGroup settings (groupReader settings groups) s body = .error e)
    (hmode : s.mode = .start ∨ s.mode = .operand) :
    Refuses settings groups s (.group body) e := by
  unfold acceptGroup at h
  split at h
  · rename_i hempty
    cases List.isEmpty_iff.1 hempty
    cases h
    exact .emptyGroup hmode
  · rename_i hne
    cases groups with
    | zero =>
        cases h
        exact .nestedTooDeep hmode (by simpa using hne)
    | succ groups =>
        simp only [groupReader] at h
        cases hread : readNested settings groups body with
        | error cause =>
            simp only [hread] at h
            cases h
            exact .inGroup hmode hread
        | ok operand => simp [hread] at h

/-- A token that is not expected is refused as such, with its first character. -/
theorem accept_of_unexpected {readGroup : GroupReader} (h : s.mode.Unexpected token) :
    accept settings readGroup s token =
      .error ⟨.unexpectedToken, s.position, token.text.head?, s.mode⟩ := by
  cases token with
  | operator op => rcases h with h | h <;> simp [accept, h, State.fail]
  | name word => rcases h with h | h <;> simp [accept, h, State.fail]
  | group body => rcases h with h | h <;> simp [accept, h, State.fail]
  | openGroup body => rcases h with h | h <;> simp [accept, h, State.fail]
  | other c => rfl
  | blank c => cases h
  | condition body => cases h
  | openCondition body => cases h

/-- An operand is expected where no operator is and no node is due. -/
theorem Mode.start_or_operand {mode : Mode} (h : ¬ (mode = .operator ∨ mode = .build)) :
    mode = .start ∨ mode = .operand := by
  cases mode <;> simp_all

/-- Every token that is not accepted is refused for one of the listed reasons. -/
theorem accept_error (h : accept settings (groupReader settings groups) s token = .error e) :
    Refuses settings groups s token e := by
  by_cases hunexpected : s.mode.Unexpected token
  · rw [accept_of_unexpected hunexpected] at h
    cases h
    exact .unexpected hunexpected
  cases token with
  | blank c => cases h
  | condition body => cases h
  | openCondition body =>
      cases h
      exact .openCondition
  | operator op =>
      cases hmode : s.mode with
      | start => simp [accept, hmode, acceptOperator] at h
      | operator =>
          simp only [accept, hmode] at h
          exact acceptOperator_error h hmode
      | operand => exact absurd (.inl hmode) hunexpected
      | build => exact absurd (.inr hmode) hunexpected
  | name word =>
      have hmode := Mode.start_or_operand hunexpected
      refine acceptName_error ?_ hmode
      rcases hmode with hmode | hmode <;> simpa only [accept, hmode] using h
  | group body =>
      have hmode := Mode.start_or_operand hunexpected
      refine acceptGroup_error ?_ hmode
      rcases hmode with hmode | hmode <;> simpa only [accept, hmode] using h
  | openGroup body =>
      have hmode := Mode.start_or_operand hunexpected
      have hopen : accept settings (groupReader settings groups) s (.openGroup body) =
          s.fail .unbalancedParenthesis (some '(') := by
        rcases hmode with hmode | hmode <;> simp only [accept, hmode]
      rw [hopen] at h
      cases h
      exact .openGroup hmode
  | other c => exact absurd trivial hunexpected

/-- A node that cannot be built has one of the reasons for that. -/
theorem build_error (h : build settings text s = .error e) : CannotBuild settings text s e := by
  cases hop : s.op with
  | none =>
      simp only [build, hop] at h
      cases h
      exact .noOperator hop
  | some op =>
      simp only [build, hop] at h
      split at h
      · rename_i hheight
        cases h
        exact .tooHigh hop hheight
      · split at h
        · rename_i defect hnode
          cases h
          exact .defect hop hnode
        · cases h

/-- A text that cannot end leaves something over, or nothing at all. -/
theorem finish_error {s : State} (h : finish s = .error e) : LeavesOver s e := by
  unfold finish at h
  split at h
  · rename_i hlhs
    cases h
    exact .noRelation hlhs
  · rename_i root hlhs
    split at h
    · cases h
      exact .unfinished (by simp [hlhs])
    · cases h

/-! ## Reading on -/

/-- Reads on from the beginning of a turn. -/
def readFrom (settings : Settings) (groups : Nat) (text : Text) (s : State)
    (rest : List Token) : Except ReadError Operand :=
  ((settle settings text s).bind fun s =>
    readTokens settings (groupReader settings groups) text s rest).bind finish

/-- A token that is accepted leaves the others to be read. -/
theorem readFrom_cons (hmode : s.mode ≠ .build)
    (haccept : accept settings (groupReader settings groups) s token = .ok s') :
    readFrom settings groups text s (token :: rest) = readFrom settings groups text s' rest := by
  rw [readFrom, settle_of_ne_build hmode]
  show ((step settings (groupReader settings groups) text s token).bind _).bind finish = _
  rw [step, haccept]
  rfl

/-- A token that is refused ends the reading. -/
theorem readFrom_error (hmode : s.mode ≠ .build)
    (haccept : accept settings (groupReader settings groups) s token = .error e) :
    readFrom settings groups text s (token :: rest) = .error e := by
  rw [readFrom, settle_of_ne_build hmode]
  show ((step settings (groupReader settings groups) text s token).bind _).bind finish = _
  rw [step, haccept]
  rfl

/-- What a node that has been built leaves in the state. -/
theorem build_eq_ok (h : build settings text s = .ok s') :
    ∃ op node, s.op = some op ∧
      Expr.assemble op s.left s.right s.condition (text.take s.position) = .ok node ∧
      s' = s.built ⟨node, 1 + max s.leftHeight s.rightHeight⟩ := by
  cases hop : s.op with
  | none => simp [build, hop, State.fail] at h
  | some op =>
      obtain ⟨-, node, hnode, rfl⟩ := (build_eq_ok_iff hop).1 h
      exact ⟨op, node, rfl, hnode, rfl⟩

/-- A node is built in one turn. -/
theorem mode_ne_of_build (h : build settings text s = .ok s') : s'.mode ≠ .build := by
  obtain ⟨op, node, -, -, rfl⟩ := build_eq_ok h
  nofun

/-- A node that is built leaves the same tokens to be read. -/
theorem readFrom_build (hmode : s.mode = .build) (hbuild : build settings text s = .ok s') :
    readFrom settings groups text s rest = readFrom settings groups text s' rest := by
  rw [readFrom, readFrom, settle_of_ne_build (mode_ne_of_build hbuild), settle, if_pos hmode,
    hbuild]

/-- Reading on from any turn gives what the text is read as. -/
theorem Turn.read_eq (h : Turn settings groups text s rest) :
    readFrom settings groups text s rest = readNested settings groups text := by
  induction h with
  | first =>
      rw [readNested_eq_readWith]
      rfl
  | afterToken hturn hmode haccept ih => rw [← ih, readFrom_cons hmode haccept]
  | afterBuild hturn hmode hbuild ih => rw [← ih, readFrom_build hmode hbuild]

/-- If a node is due in a turn, it cannot be built or the next turn reads on without it. -/
theorem Turn.settled (h : Turn settings groups text s rest) :
    EndsIn settings groups text s rest (readFrom settings groups text s rest) ∨
    ∃ s', Turn settings groups text s' rest ∧ s'.mode ≠ .build ∧
      readFrom settings groups text s rest = readFrom settings groups text s' rest := by
  by_cases hmode : s.mode = .build
  · cases hbuild : build settings text s with
    | error e =>
        rw [readFrom, settle, if_pos hmode, hbuild]
        exact .inl (.unbuilt hmode (build_error hbuild))
    | ok s' =>
        exact .inr ⟨s', h.afterBuild hmode hbuild, mode_ne_of_build hbuild,
          readFrom_build hmode hbuild⟩
  · exact .inr ⟨s, h, hmode, rfl⟩

/-- Reading on from a turn ends in that turn or in a later one. -/
theorem Turn.exists_endsIn (h : Turn settings groups text s rest) :
    ∃ last left, Turn settings groups text last left ∧
      EndsIn settings groups text last left (readFrom settings groups text s rest) := by
  induction rest generalizing s with
  | nil =>
      rcases h.settled with hends | ⟨s', hturn, hmode, hsame⟩
      · exact ⟨s, [], h, hends⟩
      · rw [hsame, readFrom, settle_of_ne_build hmode]
        show ∃ last left, _ ∧ EndsIn settings groups text last left (finish s')
        refine ⟨s', [], hturn, ?_⟩
        cases hfinish : finish s' with
        | error e => exact .leftOver hmode (finish_error hfinish)
        | ok root => exact .finished hmode hfinish
  | cons token rest ih =>
      rcases h.settled with hends | ⟨s', hturn, hmode, hsame⟩
      · exact ⟨s, token :: rest, h, hends⟩
      · rw [hsame]
        cases haccept : accept settings (groupReader settings groups) s' token with
        | error e =>
            rw [readFrom_error hmode haccept]
            exact ⟨s', token :: rest, hturn, .refused hmode (accept_error haccept)⟩
        | ok next =>
            rw [readFrom_cons hmode haccept]
            exact ih (hturn.afterToken hmode haccept)

/-- The reading of a text ends in one of its turns. -/
theorem exists_endsIn (settings : Settings) (groups : Nat) (text : Text) :
    ∃ s rest, Turn settings groups text s rest ∧
      EndsIn settings groups text s rest (readNested settings groups text) := by
  have hfirst : Turn settings groups text {} (tokens text) := .first
  rw [← hfirst.read_eq]
  exact hfirst.exists_endsIn

/-! ## What is kept at every turn -/

/-- The height that is kept beside an operand is the height of its tree. -/
theorem ReadsOperand.height_eq (h : ReadsOperand settings groups token operand) :
    operand.height = operand.expr.height := by
  cases h with
  | name hne hknown => rfl
  | group hne hread =>
      have hinner := (readNested_sound hread).height_eq
      simpa [Operand.grouped] using hinner

namespace State.Consistent

/-- Nothing is kept at the beginning. -/
theorem initial : State.Consistent {} where
  start _ := ⟨rfl, rfl, rfl⟩
  operand h := by cases h
  operator h := by cases h
  build h := by cases h
  left_height _ h := by cases h
  right_height _ h := by cases h
  no_right _ := rfl

/-- A right operand is there only when a node is due. -/
theorem right_eq_none (hs : s.Consistent) (hmode : s.mode ≠ .build) : s.right = none := by
  cases h : s.mode with
  | start => exact (hs.start h).2.1
  | operand => exact (hs.operand h).1
  | operator => exact (hs.operator h).2.1
  | build => exact absurd h hmode

/-- Going past a token changes nothing that is kept. -/
theorem advance (hs : s.Consistent) (token : Token) : (s.advance token).Consistent :=
  ⟨hs.start, hs.operand, hs.operator, hs.build, hs.left_height, hs.right_height, hs.no_right⟩

/-- A condition may be kept in any mode. -/
theorem withCondition (hs : s.Consistent) (body : Text) : (s.withCondition body).Consistent :=
  ⟨hs.start, hs.operand, hs.operator, hs.build, hs.left_height, hs.right_height, hs.no_right⟩

/-- A unary operator is read only at the start, where there is no operand yet. -/
theorem withOperator (hs : s.Consistent)
    (hplace : s.mode = .start ∨ s.mode = .operator ∧ op.category ≠ .unary) :
    (s.withOperator op).Consistent := by
  refine ⟨nofun, fun _ => ⟨?_, op, rfl, ?_⟩, nofun, nofun, hs.left_height, hs.right_height,
    hs.no_right⟩
  · rcases hplace with hmode | ⟨hmode, -⟩
    · exact (hs.start hmode).2.1
    · exact (hs.operator hmode).2.1
  · intro hunary
    rcases hplace with hmode | ⟨-, hbinary⟩
    · exact (hs.start hmode).1
    · exact absurd hunary hbinary

/-- An operand may be held where no unary operator waits for it. -/
theorem holding (hs : s.Consistent) (hmode : s.mode ≠ .build)
    (hop : ∀ op ∈ s.op, op.category ≠ .unary) (hheight : operand.height = operand.expr.height) :
    (s.holding operand).Consistent := by
  refine ⟨nofun, nofun, fun _ => ⟨rfl, hs.right_eq_none hmode, hop⟩, nofun, ?_, hs.right_height,
    hs.no_right⟩
  intro held hheld
  cases hheld
  exact hheight

/-- An operand is held as the left one, or it is the last one that its operator needs. -/
theorem withOperand (hs : s.Consistent) (hmode : s.mode = .start ∨ s.mode = .operand)
    (hheight : operand.height = operand.expr.height) : (s.withOperand operand).Consistent := by
  have hne : s.mode ≠ .build := by
    rcases hmode with hmode | hmode <;> simp [hmode]
  have hright := hs.right_eq_none hne
  rcases hmode with hstart | hoperand
  · obtain ⟨hleft, -, hop⟩ := hs.start hstart
    rw [withOperand_left (by simp [hop]) (State.lhs_eq_none_iff.2 hleft)]
    exact hs.holding hne (by simp [hop]) hheight
  obtain ⟨-, op, hop, -⟩ := hs.operand hoperand
  by_cases hunary : op.category = .unary
  · rw [withOperand_unary hop hunary]
    refine ⟨nofun, nofun, nofun, fun _ => ⟨rfl, op, hop, ?_⟩, ?_, hs.right_height, hs.no_right⟩
    · show s.right.isSome ↔ op.category ≠ .unary
      simp [hright, hunary]
    · intro held hheld
      cases hheld
      exact hheight
  · cases hheld : s.left with
    | none =>
        rw [withOperand_left (by simpa [hop] using hunary) (State.lhs_eq_none_iff.2 hheld)]
        exact hs.holding hne (by simpa [hop] using hunary) hheight
    | some left =>
        have hlhs : s.lhs = some ⟨left, s.leftHeight⟩ := State.lhs_eq_some_iff.2 ⟨hheld, rfl⟩
        rw [withOperand_right hop hunary hlhs]
        refine ⟨nofun, nofun, nofun, fun _ => ⟨?_, op, hop, iff_of_true rfl hunary⟩,
          hs.left_height, ?_, nofun⟩
        · show s.left.isSome
          rw [hheld]
          rfl
        · intro right hright
          cases hright
          exact hheight

/-- What is kept stays consistent when a token is taken. -/
theorem of_accept (hs : s.Consistent)
    (h : accept settings (groupReader settings groups) s token = .ok s') :
    s'.Consistent := by
  rcases accept_cases h with ⟨c, rfl, rfl⟩ | ⟨body, rfl, rfl⟩ | ⟨op, rfl, hplace, rfl⟩ |
    ⟨operand, hread, hmode, rfl⟩
  · exact hs.advance _
  · exact (hs.advance _).withCondition body
  · exact (hs.advance _).withOperator hplace
  · exact (hs.advance token).withOperand hmode hread.height_eq

/-- The height of a node that is built from what is kept. -/
theorem height_node {node : Expr} {source : Text} (hs : s.Consistent) (hmode : s.mode = .build)
    (hop : s.op = some op)
    (hnode : Expr.assemble op s.left s.right s.condition source = .ok node) :
    1 + max s.leftHeight s.rightHeight = node.height := by
  obtain ⟨hleft, op', hop', hneeded⟩ := hs.build hmode
  cases hop.symm.trans hop'
  obtain ⟨lhs, hlhs⟩ := Option.isSome_iff_exists.1 hleft
  rw [hs.left_height lhs hlhs]
  rw [hlhs] at hnode
  cases hright : s.right with
  | none =>
      have hunary : op.category = .unary := by
        rw [hright] at hneeded
        simpa using hneeded
      rw [hright] at hnode
      obtain ⟨condition, -, rfl⟩ := Expr.assemble_unary hunary hnode
      rw [hs.no_right hright, Nat.max_zero, Expr.height]
  | some rhs =>
      have hbinary : op.category ≠ .unary := by
        rw [hright] at hneeded
        exact hneeded.1 rfl
      rw [hright] at hnode
      rw [hs.right_height rhs hright, (Expr.assemble_binary hbinary hnode).height_eq]

/-- What is kept stays consistent when a node is built. -/
theorem of_build (hs : s.Consistent) (hmode : s.mode = .build)
    (h : Syntax.build settings text s = .ok s') : s'.Consistent := by
  obtain ⟨op, node, hop, hnode, rfl⟩ := build_eq_ok h
  refine ⟨nofun, nofun, fun _ => ⟨rfl, rfl, nofun⟩, nofun, ?_, nofun, fun _ => rfl⟩
  intro held hheld
  cases hheld
  exact hs.height_node hmode hop hnode

end State.Consistent

/-- What the reader keeps is consistent at every turn. -/
theorem Turn.consistent (h : Turn settings groups text s rest) : s.Consistent := by
  induction h with
  | first => exact .initial
  | afterToken hturn hmode haccept ih => exact ih.of_accept haccept
  | afterBuild hturn hmode hbuild ih => exact ih.of_build hmode hbuild

/-! ## Errors about relations -/

/-- An unknown relation has a name that is not allowed, at whatever depth it stands. -/
theorem not_allowed_of_readNested {name : Text} (h : readNested settings groups text = .error e)
    (hcause : e.cause = .unknownRelation name) : settings.allows name = false := by
  induction groups using Nat.strongRecOn generalizing text e with
  | ind groups ih =>
      obtain ⟨s, rest, hturn, hends⟩ := exists_endsIn settings groups text
      rw [h] at hends
      cases hends with
      | refused hmode hrefuses =>
          cases hrefuses with
          | inGroup hplace hread => exact ih _ (Nat.lt_succ_self _) hread hcause
          | unknownRelation hplace hne hunknown =>
              cases hcause
              exact hunknown
          | _ => cases hcause
      | unbuilt hmode hbuild => cases hbuild <;> cases hcause
      | leftOver hmode hleft => cases hleft <;> cases hcause

/-- Reading refuses only relations that may not be mentioned. -/
theorem onlyUnknown_read (settings : Settings) (text : Text) (e : ReadError) (name : Text)
    (h : read settings text = .error e) (hcause : e.cause = .unknownRelation name) :
    settings.allows name = false :=
  not_allowed_of_readNested (read_eq_error_iff.1 h) hcause

/-! ## Errors that never come up -/

/-- The causes that say that something is missing which the reader always has: the operator or an
operand of a node that is due, or the characters of a name. -/
def Cause.OfMissingPart : Cause → Prop
  | .missingOperator | .defect (.missingOperand _) | .emptyName => True
  | _ => False

/-- The tokens that are still to be read are the last ones of the text. -/
theorem Turn.suffix (h : Turn settings groups text s rest) : rest <:+ tokens text := by
  induction h with
  | first => exact List.suffix_rfl
  | afterToken hturn hmode haccept ih => exact (List.suffix_cons _ _).trans ih
  | afterBuild hturn hmode hbuild ih => exact ih

/-- A node that is due has its operator and its operands. -/
theorem CannotBuild.not_ofMissingPart (h : CannotBuild settings text s e) (hs : s.Consistent)
    (hmode : s.mode = .build) : ¬ e.cause.OfMissingPart := by
  obtain ⟨hleft, op, hop, hright⟩ := hs.build hmode
  cases h with
  | noOperator hnone =>
      rw [hop] at hnone
      cases hnone
  | tooHigh hop' hheight => exact id
  | defect hop' hnode =>
      cases hop.symm.trans hop'
      rcases Expr.assemble_eq_error hnode hleft hright.2 with ⟨-, rfl⟩ | ⟨-, rfl⟩
      · exact id
      · exact id

/-- No node is ever built without a part that it needs. -/
theorem not_ofMissingPart_of_readNested (h : readNested settings groups text = .error e) :
    ¬ e.cause.OfMissingPart := by
  induction groups using Nat.strongRecOn generalizing text e with
  | ind groups ih =>
      obtain ⟨s, rest, hturn, hends⟩ := exists_endsIn settings groups text
      rw [h] at hends
      cases hends with
      | refused hmode hrefuses =>
          cases hrefuses with
          | inGroup hplace hread => exact ih _ (Nat.lt_succ_self _) hread
          | emptyName hplace =>
              have hmem := hturn.suffix.subset List.mem_cons_self
              exact absurd rfl (text_ne_nil_of_mem_tokens hmem)
          | _ => exact id
      | unbuilt hmode hbuild => exact hbuild.not_ofMissingPart hturn.consistent hmode
      | leftOver hmode hleft => cases hleft <;> exact id

/-- At every turn of the loop, over any text and however many groups may still be opened, the reader
keeps what its mode says and true heights; so no text is refused because a node has no operator or
lacks an operand, or because a name is empty. -/
theorem reader_invariant (settings : Settings) (text : Text) :
    (∀ groups s rest, Turn settings groups text s rest → s.Consistent) ∧
    ∀ e, read settings text = .error e → e.cause ≠ .missingOperator ∧
      (∀ op, e.cause ≠ .defect (.missingOperand op)) ∧ e.cause ≠ .emptyName := by
  refine ⟨fun groups s rest hturn => hturn.consistent, fun e h => ?_⟩
  have hcause := not_ofMissingPart_of_readNested (read_eq_error_iff.1 h)
  refine ⟨fun hmissing => ?_, fun op hmissing => ?_, fun hmissing => ?_⟩
  · exact hcause (hmissing ▸ trivial)
  · exact hcause (hmissing ▸ trivial)
  · exact hcause (hmissing ▸ trivial)

/-- A turn in which a node is due, one behind an operand that a binary operator came before, and a
text that ends within a node. -/
theorem reader_invariant_leading_union :
    (∃ s, Turn {} 64 "σ {A} R".toList s [] ∧ s.mode = .build ∧ s.Consistent) ∧
    (∃ s, Turn {} 64 "∪ R".toList s [] ∧ s.mode = .operator ∧ s.op = some .union ∧
      s.Consistent) ∧
    ∃ e, read {} "R ∪".toList = .error e ∧ e.cause ≠ .missingOperator ∧
      (∀ op, e.cause ≠ .defect (.missingOperand op)) ∧ e.cause ≠ .emptyName := by
  have hselect : Turn {} 64 "σ {A} R".toList {} [.operator .select, .blank ' ',
      .condition ['A'], .blank ' ', .name ['R']] := .first
  have hdue := ((((hselect.afterToken (by decide) rfl).afterToken (by decide) rfl).afterToken
    (by decide) rfl).afterToken (by decide) rfl).afterToken (by decide) rfl
  have hunion : Turn {} 64 "∪ R".toList {} [.operator .union, .blank ' ', .name ['R']] := .first
  have hkept := ((hunion.afterToken (by decide) rfl).afterToken (by decide) rfl).afterToken
    (by decide) rfl
  have hend : read {} "R ∪".toList = .error ⟨.unfinished, 3, none, .operand⟩ := by
    rfl
  exact ⟨⟨_, hdue, rfl, (reader_invariant {} _).1 64 _ _ hdue⟩,
    ⟨_, hkept, rfl, rfl, (reader_invariant {} _).1 64 _ _ hkept⟩,
    _, hend, (reader_invariant {} _).2 _ hend⟩

end RelQuery.Syntax
