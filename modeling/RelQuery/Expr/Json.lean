import RelQuery.Expr

/-!
# Expressions as JSON

A node is an object with its kind and its source; the kind is an object whose field `type` names it.
Objects are written with one field a line, indented by two spaces.
-/

namespace RelQuery.Expr

/-- One character of a JSON string: quotes, backslashes and control characters are escaped. -/
def jsonChar (c : Char) : Text :=
  match c with
  | '"' => ['\\', '"']
  | '\\' => ['\\', '\\']
  | '\x08' => ['\\', 'b']
  | '\x0c' => ['\\', 'f']
  | '\n' => ['\\', 'n']
  | '\r' => ['\\', 'r']
  | '\t' => ['\\', 't']
  | c =>
      if c.toNat < 0x20 then
        let digits := Text.hexadecimal c.toNat
        ['\\', 'u'] ++ List.replicate (4 - digits.length) '0' ++ digits
      else [c]

/-- A JSON string. -/
def jsonString (text : Text) : Text :=
  '"' :: text.flatMap jsonChar ++ ['"']

/-- A JSON object whose values are written already. Its fields are indented by two more spaces than
its closing brace. -/
def jsonObject (indent : Nat) (fields : List (String × Text)) : Text :=
  let line (field : String × Text) : Text :=
    List.replicate (indent + 2) ' ' ++ jsonString field.1.toList ++ [':', ' '] ++ field.2
  ['{', '\n'] ++ Text.joinWith [',', '\n'] (fields.map line) ++
    '\n' :: List.replicate indent ' ' ++ ['}']

/-- A node as a JSON object, from its kind's name and further fields. -/
def jsonNode (indent : Nat) (kind : String) (fields : List (String × Text)) (source : Text) :
    Text :=
  jsonObject indent
    [("kind", jsonObject (indent + 2) (("type", jsonString kind.toList) :: fields)),
     ("source", jsonString source)]

/-- The expression as JSON, for a place that is indented already. -/
def toJson (indent : Nat) : Expr → Text
  | relation name source => jsonNode indent "relation" [("name", jsonString name)] source
  | setOp op lhs rhs source =>
      jsonNode indent "set_op"
        [("op", jsonString op.identifier), ("lhs", lhs.toJson (indent + 4)),
         ("rhs", rhs.toJson (indent + 4))] source
  | unary op condition operand source =>
      jsonNode indent "unary"
        [("op", jsonString op.identifier), ("operand", operand.toJson (indent + 4)),
         ("condition", jsonString condition)] source
  | join op lhs rhs source =>
      jsonNode indent "join"
        [("op", jsonString op.identifier), ("lhs", lhs.toJson (indent + 4)),
         ("rhs", rhs.toJson (indent + 4))] source
  | conditionalJoin op condition lhs rhs source =>
      jsonNode indent "conditional_join"
        [("op", jsonString op.identifier), ("lhs", lhs.toJson (indent + 4)),
         ("rhs", rhs.toJson (indent + 4)), ("condition", jsonString condition)] source

end RelQuery.Expr
