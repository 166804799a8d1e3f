import RelQuery.Syntax.Read
import RelQuery.Log
import RelQuery.Text.Quoted

/-!
# What the reader logs

The reader may say what it does: what it found, how its mode changed and which nodes it built. Here
it is written once more as a program that logs (`Logged`), which tests at each of these places
whether the settings ask for a line. It takes the steps of the reader that does not log; what it has
logged up to an error remains.
-/

namespace RelQuery.Syntax

/-- Something that the reader did. Places are byte offsets into the text at hand. -/
inductive Event where
  | started (depth : Nat) (text : Text)
  | foundCondition (offset : Nat) (condition : Text)
  | foundOperator (offset : Nat) (op : Operator)
  | foundRelation (offset : Nat) (name : Text)
  | changedMode (offset : Nat) (before after : Mode)
  | built (offset : Nat) (op : Operator) (source : Text)
  | returned (depth : Nat) (source : Text)
  deriving DecidableEq, Repr

namespace Event

/-- The beginning of a line about a byte offset. -/
def atOffset (offset : Nat) : Text :=
  "index ".toList ++ Text.ofNat offset ++ ": ".toList

/-- The beginning of a line about a depth of groups. -/
def atDepth (depth : Nat) : Text :=
  "depth ".toList ++ Text.ofNat depth ++ ": ".toList

/-- The log line about an event. -/
def line : Event → LogLine
  | started depth text => ⟨.debug, atDepth depth ++ "parsing ".toList ++ Text.quoted text⟩
  | foundCondition offset condition =>
      ⟨.trace, atOffset offset ++ "found condition ".toList ++ Text.quoted condition⟩
  | foundOperator offset op => ⟨.trace, atOffset offset ++ "found operator ".toList ++ op.word⟩
  | foundRelation offset name => ⟨.trace, atOffset offset ++ "found relation ".toList ++ name⟩
  | changedMode offset before after =>
      ⟨.trace, atOffset offset ++ before.word ++ " -> ".toList ++ after.word⟩
  | built offset op source =>
      ⟨.debug,
        atOffset offset ++ "built ".toList ++ op.word ++ " node ".toList ++ Text.quoted source⟩
  | returned depth source => ⟨.debug, atDepth depth ++ "returning ".toList ++ Text.quoted source⟩

end Event

/-- What a program that logs gives: a result, and the lines that it has logged until then. -/
structure Logged (α : Type) where
  result : Except ReadError α
  log : List LogLine

namespace Logged

variable {α β : Type}

/-- A program that logs nothing. -/
def silent (result : Except ReadError α) : Logged α := ⟨result, []⟩

/-- One program behind the other; the second one only if the first one has not failed. -/
def andThen (first : Logged α) (next : α → Logged β) : Logged β :=
  match first.result with
  | .error e => ⟨.error e, first.log⟩
  | .ok a => ⟨(next a).result, first.log ++ (next a).log⟩

/-- Programs that log are put together like others. -/
instance : Monad Logged where
  pure a := silent (.ok a)
  bind := andThen

/-- Logs the line about an event if the settings ask for it. -/
def say (settings : Settings) (event : Event) : Logged Unit :=
  ⟨.ok (), if settings.trace then [event.line] else []⟩

/-- Changes the mode. -/
def transition (settings : Settings) (s : State) (mode : Mode) : Logged State := do
  say settings (.changedMode s.offset s.mode mode)
  pure { s with mode := mode }

/-- Takes an operand that has been read: the only one of a unary operator, else the left one if
there is none yet, else the right one. -/
def withOperand (settings : Settings) (s : State) (operand : Operand) : Logged State :=
  if s.op.any (fun op => op.category = .unary) then
    transition settings { s with left := some operand.expr, leftHeight := operand.height } .build
  else if s.left.isNone then
    transition settings { s with left := some operand.expr, leftHeight := operand.height } .operator
  else
    transition settings { s with right := some operand.expr, rightHeight := operand.height } .build

/-- Reads an operator. A unary operator must come first. -/
def acceptOperator (settings : Settings) (s : State) (op : Operator) : Logged State :=
  if op.category = .unary ∧ s.mode ≠ .start then
    silent (s.fail .misplacedUnary (some op.symbol))
  else do
    say settings (.foundOperator s.offset op)
    transition settings { s.advance (.operator op) with op := some op } .operand

/-- Reads a relation name. -/
def acceptName (settings : Settings) (s : State) (name : Text) : Logged State :=
  if name.isEmpty then silent (s.fail .emptyName none)
  else if settings.allows name then do
    say settings (.foundRelation s.offset name)
    withOperand settings (s.advance (.name name)) ⟨.named name, 1⟩
  else silent (s.fail (.unknownRelation name) name.head?)

/-- How the body of a group is read; `none` where no further group may be opened. -/
abbrev GroupReader := Option (Text → Logged Operand)

/-- Reads a group. An error inside it keeps its place within the group. -/
def acceptGroup (settings : Settings) (readGroup : GroupReader) (s : State) (body : Text) :
    Logged State :=
  if body.isEmpty then silent (s.fail .emptyGroup (some '('))
  else
    match readGroup with
    | none => silent (s.fail (.nestedTooDeep settings.maxDepth) (some '('))
    | some read => do
        let operand ← read body
        withOperand settings (s.advance (.group body)) operand.grouped

/-- Reads one token. Blanks and conditions may stand anywhere, operators where one may begin a node
or follow an operand, names and groups where an operand is expected. -/
def accept (settings : Settings) (readGroup : GroupReader) (s : State) (token : Token) :
    Logged State :=
  match token, s.mode with
  | .blank _, _ => pure (s.advance token)
  | .condition body, _ => do
      say settings (.foundCondition s.offset body)
      pure ((s.advance token).withCondition body)
  | .openCondition _, _ => silent (s.fail .openCondition (some '{'))
  | .operator op, .start => acceptOperator settings s op
  | .operator op, .operator => acceptOperator settings s op
  | .group body, .start => acceptGroup settings readGroup s body
  | .group body, .operand => acceptGroup settings readGroup s body
  | .openGroup _, .start => silent (s.fail .unbalancedParenthesis (some '('))
  | .openGroup _, .operand => silent (s.fail .unbalancedParenthesis (some '('))
  | .name name, .start => acceptName settings s name
  | .name name, .operand => acceptName settings s name
  | _, _ => silent (s.fail .unexpectedToken token.text.head?)

/-- Replaces the parts of a node by the node. Its source is all of `text` that has been read. -/
def build (settings : Settings) (text : Text) (s : State) : Logged State :=
  match s.op with
  | none => silent (s.fail .missingOperator none)
  | some op =>
      let height := 1 + max s.leftHeight s.rightHeight
      if settings.maxTreeDepth < height then
        silent (s.fail (.treeTooHigh settings.maxTreeDepth) none)
      else
        match Expr.assemble op s.left s.right s.condition (text.take s.position) with
        | .error defect => silent (s.fail (.defect defect) none)
        | .ok node => do
            say settings (.built s.offset op node.source)
            transition settings
              { s with
                left := some node
                leftHeight := height
                right := none
                rightHeight := 0
                op := none
                condition := none } .operator

/-- Builds a node if all its parts are there. -/
def settle (settings : Settings) (text : Text) (s : State) : Logged State :=
  if s.mode = .build then build settings text s else pure s

/-- The operand that is left when all has been read. A condition with something in it, an operator
or a right operand must not be left over. -/
def finish (settings : Settings) (depth : Nat) (s : State) : Logged Operand :=
  match s.lhs with
  | none => silent (.error ⟨.noRelation, s.position, none, s.mode⟩)
  | some root =>
      if s.op.isSome || s.right.isSome || (Expr.presentCondition s.condition).isSome then
        silent (.error ⟨.unfinished, s.position, none, s.mode⟩)
      else do
        say settings (.returned depth root.expr.source)
        pure root

/-- Reads tokens from a state on, each with the node that it completes. -/
def readTokens (settings : Settings) (readGroup : GroupReader) (text : Text) :
    State → List Token → Logged State
  | s, [] => pure s
  | s, token :: rest => do
      let taken ← accept settings readGroup s token
      let settled ← settle settings text taken
      readTokens settings readGroup text settled rest

/-- Reads a text with one way of reading the groups in it. -/
def readWith (settings : Settings) (readGroup : GroupReader) (depth : Nat) (text : Text) :
    Logged Operand := do
  say settings (.started depth text)
  let s ← readTokens settings readGroup text {} (tokens text)
  finish settings depth s

/-- Reads a text in which `groups` groups may be opened one inside another. -/
def readNested (settings : Settings) : (groups : Nat) → Text → Logged Operand
  | 0, text => readWith settings none settings.maxDepth text
  | groups + 1, text =>
      readWith settings (some (readNested settings groups)) (settings.maxDepth - (groups + 1)) text

end Logged

/-- Reads an expression and returns, beside the result, the log that the settings ask for. -/
def readLogged (settings : Settings) (text : Text) : Except ReadError Expr × List LogLine :=
  let logged := Logged.readNested settings settings.maxDepth text
  (logged.result.map Operand.expr, logged.log)

end RelQuery.Syntax
