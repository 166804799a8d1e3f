import RelQuery.Syntax.Error
import RelQuery.Syntax.Settings
import RelQuery.Syntax.Token
import RelQuery.Expr.Printer

/-!
# The reader's machine

The reader goes over the tokens once and keeps at most two operands, an operator and a condition.
`accept` takes one token; once all parts of a node are there the machine is in mode `build`, and
`build` replaces the parts by the node, which becomes the left operand of what follows. So operators
apply from left to right and none binds stronger than another.
-/

namespace RelQuery.Syntax

/-- An operand together with the height of its tree. -/
structure Operand where
  expr : Expr
  height : Nat
  deriving DecidableEq, Repr

/-- What the reader has kept of the tokens read so far. -/
structure State where
  /-- The number of characters read. -/
  position : Nat := 0
  /-- The number of bytes read, in UTF-8. -/
  offset : Nat := 0
  mode : Mode := .start
  left : Option Expr := none
  /-- The height that the tree on the left came with. -/
  leftHeight : Nat := 0
  right : Option Expr := none
  /-- The height that the tree on the right came with. -/
  rightHeight : Nat := 0
  op : Option Operator := none
  condition : Option Text := none
  deriving DecidableEq, Repr

namespace State

/-- The operand on the left, if one has been read: the only one of a unary operator or the first
one of a binary operator. -/
def lhs (s : State) : Option Operand :=
  s.left.map fun expr => ⟨expr, s.leftHeight⟩

/-- An error at the place that the reader has come to. -/
def fail (s : State) (cause : Cause) (found : Option Char) : Except ReadError State :=
  .error ⟨cause, s.position, found, s.mode⟩

/-- The token has been read. -/
def advance (s : State) (token : Token) : State :=
  { s with
    position := s.position + token.text.length
    offset := s.offset + Text.utf8Length token.text }

/-- A condition has been read. It replaces one that no node has taken yet. -/
def withCondition (s : State) (condition : Text) : State :=
  { s with condition := some condition }

/-- An operator has been read. -/
def withOperator (s : State) (op : Operator) : State :=
  { s with op := some op, mode := .operand }

/-- An operand has been read. It is the only operand of a unary operator, else the left one if
there is none yet, else the right one. -/
def withOperand (s : State) (operand : Operand) : State :=
  if s.op.any (fun op => op.category = .unary) then
    { s with left := some operand.expr, leftHeight := operand.height, mode := .build }
  else if s.left.isNone then
    { s with left := some operand.expr, leftHeight := operand.height, mode := .operator }
  else
    { s with right := some operand.expr, rightHeight := operand.height, mode := .build }

end State

/-- Reads an operator. A unary operator must come first. -/
def acceptOperator (s : State) (op : Operator) : Except ReadError State :=
  if op.category = .unary ∧ s.mode ≠ .start then s.fail .misplacedUnary (some op.symbol)
  else .ok ((s.advance (.operator op)).withOperator op)

/-- Reads a relation name. -/
def acceptName (settings : Settings) (s : State) (name : Text) : Except ReadError State :=
  if name.isEmpty then s.fail .emptyName none
  else if settings.allows name then
    .ok ((s.advance (.name name)).withOperand ⟨.named name, 1⟩)
  else s.fail (.unknownRelation name) name.head?

/-- How the body of a group is read; `none` where no further group may be opened. -/
abbrev GroupReader := Option (Text → Except ReadError Operand)

/-- An operand that was read from a group keeps the parentheses in its source. -/
def Operand.grouped (operand : Operand) : Operand :=
  { operand with expr := operand.expr.withSource (Expr.parenthesized operand.expr.source) }

/-- Reads a group. An error inside it keeps its place within the group. -/
def acceptGroup (settings : Settings) (readGroup : GroupReader) (s : State) (body : Text) :
    Except ReadError State :=
  if body.isEmpty then s.fail .emptyGroup (some '(')
  else
    match readGroup with
    | none => s.fail (.nestedTooDeep settings.maxDepth) (some '(')
    | some read =>
        match read body with
        | .error e => .error e
        | .ok operand => .ok ((s.advance (.group body)).withOperand operand.grouped)

/-- Reads one token. Blanks and conditions may stand anywhere, operators where one may begin a node
or follow an operand, names and groups where an operand is expected. -/
def accept (settings : Settings) (readGroup : GroupReader) (s : State) (token : Token) :
    Except ReadError State :=
  match token, s.mode with
  | .blank _, _ => .ok (s.advance token)
  | .condition body, _ => .ok ((s.advance token).withCondition body)
  | .openCondition _, _ => s.fail .openCondition (some '{')
  | .operator op, .start => acceptOperator s op
  | .operator op, .operator => acceptOperator s op
  | .group body, .start => acceptGroup settings readGroup s body
  | .group body, .operand => acceptGroup settings readGroup s body
  | .openGroup _, .start => s.fail .unbalancedParenthesis (some '(')
  | .openGroup _, .operand => s.fail .unbalancedParenthesis (some '(')
  | .name name, .start => acceptName settings s name
  | .name name, .operand => acceptName settings s name
  | _, _ => s.fail .unexpectedToken token.text.head?

/-- Replaces the parts of a node by the node. Its source is all of `text` that has been read. -/
def build (settings : Settings) (text : Text) (s : State) : Except ReadError State :=
  match s.op with
  | none => s.fail .missingOperator none
  | some op =>
      let height := 1 + max s.leftHeight s.rightHeight
      if settings.maxTreeDepth < height then s.fail (.treeTooHigh settings.maxTreeDepth) none
      else
        match Expr.assemble op s.left s.right s.condition (text.take s.position) with
        | .error defect => s.fail (.defect defect) none
        | .ok node =>
            .ok { s with
              mode := .operator
              left := some node
              leftHeight := height
              right := none
              rightHeight := 0
              op := none
              condition := none }

/-- Builds a node if all its parts are there. -/
def settle (settings : Settings) (text : Text) (s : State) : Except ReadError State :=
  if s.mode = .build then build settings text s else .ok s

/-- Reads one token and builds the node that it completes. -/
def step (settings : Settings) (readGroup : GroupReader) (text : Text) (s : State)
    (token : Token) : Except ReadError State :=
  (accept settings readGroup s token).bind (settle settings text)

/-- The operand that is left when all has been read. A condition with something in it, an operator
or a right operand must not be left over. -/
def finish (s : State) : Except ReadError Operand :=
  match s.lhs with
  | none => .error ⟨.noRelation, s.position, none, s.mode⟩
  | some root =>
      if s.op.isSome || s.right.isSome || (Expr.presentCondition s.condition).isSome then
        .error ⟨.unfinished, s.position, none, s.mode⟩
      else .ok root

/-- Reads tokens from a state on. -/
def readTokens (settings : Settings) (readGroup : GroupReader) (text : Text) :
    State → List Token → Except ReadError State
  | s, [] => .ok s
  | s, token :: rest =>
      (step settings readGroup text s token).bind fun s =>
        readTokens settings readGroup text s rest

/-- Reads a text with one way of reading the groups in it. -/
def readWith (settings : Settings) (readGroup : GroupReader) (text : Text) :
    Except ReadError Operand :=
  (readTokens settings readGroup text {} (tokens text)).bind finish

end RelQuery.Syntax
