import RelQuery.Evaluate
import RelQuery.Expr.Json
import RelQuery.Files.Read
import RelQuery.Syntax.Trace
import RelQuery.Table.Render

/-!
# The command

The command reads an expression, shows it, and evaluates it on the relations in the files that are
named behind it. It is a function of its arguments and of the disk that the files are on; its result
is what it prints, what it logs, and how it ends.
-/

namespace RelQuery.Command

/-- What the arguments ask for. -/
structure Request where
  expression : Text
  paths : List Text := []
  trace : Bool := false
  strict : Bool := false
  tree : Bool := false
  json : Bool := false
  maxDepth : Nat := 64
  maxTreeDepth : Nat := 1024
  deriving DecidableEq, Repr

/-- What the arguments mean. -/
inductive Invocation where
  | run (request : Request)
  /-- Only the help text is asked for. -/
  | help
  /-- The arguments are wrong. -/
  | misuse
  deriving DecidableEq, Repr

/-- The arguments read so far. An option that may be given once is absent until it is given. -/
structure Scanned where
  positional : List Text := []
  flags : List Text := []
  maxDepth : Option Nat := none
  maxTreeDepth : Option Nat := none
  deriving DecidableEq, Repr

/-- The options without a value. -/
def flagNames : List Text :=
  ["trace".toList, "strict".toList, "tree".toList, "json".toList]

/-- A limit: a natural number of 64 bits, with a plus sign if one likes. -/
def limit? (text : Text) : Option Nat :=
  let digits := if text.head? = some '+' then text.tail else text
  let value := Text.digitsValue digits
  if !digits.isEmpty && digits.all Char.isDigit && value < 0x10000000000000000 then some value else none

/-- Sets a limit that has not been set yet. -/
def Scanned.setLimit (scanned : Scanned) (name value : Text) : Option Scanned :=
  match limit? value with
  | none => none
  | some limit =>
      if name = "max-depth".toList then
        if scanned.maxDepth.isSome then none else some { scanned with maxDepth := some limit }
      else if name = "max-tree-depth".toList then
        if scanned.maxTreeDepth.isSome then none
        else some { scanned with maxTreeDepth := some limit }
      else none

/-- Whether an option takes a value. -/
def takesValue (name : Text) : Bool :=
  name = "max-depth".toList || name = "max-tree-depth".toList

/-- Takes an argument that is no option. Only the first one may be empty. -/
def Scanned.setPositional (scanned : Scanned) (text : Text) : Option Scanned :=
  if text.isEmpty && !scanned.positional.isEmpty then none
  else some { scanned with positional := scanned.positional ++ [text] }

/-- Takes an option without a value, once. -/
def Scanned.setFlag (scanned : Scanned) (name : Text) : Option Scanned :=
  if flagNames.contains name && !scanned.flags.contains name then
    some { scanned with flags := name :: scanned.flags }
  else none

/-- How reading the arguments ends. -/
inductive Scan where
  | done (scanned : Scanned)
  | help
  | misuse
  deriving DecidableEq, Repr

/-- Takes the arguments behind a double dash, none of which is an option. -/
def scanPositional (scanned : Scanned) : List Text → Scan
  | [] => .done scanned
  | argument :: rest =>
      match scanned.setPositional argument with
      | some scanned => scanPositional scanned rest
      | none => .misuse

/-- Reads the arguments from left to right. The first one that is wrong, or that asks for help, ends
the reading. -/
def scan (scanned : Scanned) : List Text → Scan
  | [] => .done scanned
  | ['-', '-'] :: rest => scanPositional scanned rest
  | ('-' :: '-' :: option) :: rest =>
      match Text.cut? '=' option with
      | some (name, value) =>
          match scanned.setLimit name value with
          | some scanned => scan scanned rest
          | none => .misuse
      | none =>
          if option = "help".toList then .help
          else if takesValue option then
            match rest with
            | value :: rest =>
                match scanned.setLimit option value with
                | some scanned => scan scanned rest
                | none => .misuse
            | [] => .misuse
          else
            match scanned.setFlag option with
            | some scanned => scan scanned rest
            | none => .misuse
  | ('-' :: 'h' :: _) :: _ => .help
  | ('-' :: _ :: _) :: _ => .misuse
  | argument :: rest =>
      match scanned.setPositional argument with
      | some scanned => scan scanned rest
      | none => .misuse

/-- What the arguments mean. There has to be an expression; paths may follow it. -/
def invocation (arguments : List Text) : Invocation :=
  match scan {} arguments with
  | .help => .help
  | .misuse => .misuse
  | .done scanned =>
      match scanned.positional with
      | [] => .misuse
      | expression :: paths =>
          let flag (name : String) : Bool := scanned.flags.contains name.toList
          .run
            { expression, paths
              trace := flag "trace"
              strict := flag "strict"
              tree := flag "tree"
              json := flag "json"
              maxDepth := scanned.maxDepth.getD 64
              maxTreeDepth := scanned.maxTreeDepth.getD 1024 }

/-- Why a request ends without success. -/
inductive Failure where
  | nothingLoaded
  | unreadable (expression : Text) (error : Syntax.ReadError)
  | unevaluable (error : EvalError)
  deriving DecidableEq, Repr

/-- What went wrong, and why: one message for each cause, from the outside in. -/
def Failure.messages : Failure → Text × List Text
  | nothingLoaded => ("no relations could be loaded from the given paths".toList, [])
  | unreadable expression error =>
      ("failed to parse '".toList ++ expression ++ ['\''], [error.message])
  | unevaluable error =>
      ("evaluation failed".toList,
        error.message ::
          match error with
          | .condition cause => [cause.message]
          | .fault cause => [cause.message]
          | _ => [])

/-- A message with the further ones of its lines indented. -/
def indented (first rest : Text) (message : Text) : Text :=
  first ++ Text.joinWith ('\n' :: rest) (Text.splitOn '\n' message) ++ ['\n']

/-- The causes of a failure, numbered if there are several. -/
def causesText : List Text → Text
  | [] => []
  | [cause] => "\nCaused by:\n".toList ++ indented "    ".toList "    ".toList cause
  | causes =>
      "\nCaused by:\n".toList ++ causes.zipIdx.flatMap fun (cause, i) =>
        let number := Text.ofNat i
        indented (List.replicate (5 - number.length) ' ' ++ number ++ [':', ' '])
          (List.replicate 7 ' ') cause

/-- The text about a failure. -/
def Failure.toText (failure : Failure) : Text :=
  let (message, causes) := failure.messages
  "Error: ".toList ++ message ++ '\n' :: causesText causes

/-- What the command does. -/
structure Result where
  output : Text
  log : List LogLine
  failure : Option Failure

/-- How the request wants expressions to be read. -/
def Request.settings (request : Request) (catalog : Catalog) : Syntax.Settings where
  known := if request.strict then some catalog.names else none
  trace := request.trace
  maxDepth := request.maxDepth
  maxTreeDepth := request.maxTreeDepth

/-- What is shown of an expression: the one-line form, and the outline and the JSON form on
request. -/
def shown (request : Request) (e : Expr) : Text :=
  e.toText ++ ['\n'] ++ (if request.tree then e.outline else []) ++
    (if request.json then e.toJson 0 ++ ['\n'] else [])

/-- Carries out a request on the relations at hand. -/
def runOn (request : Request) (catalog : Catalog) : Result :=
  let expression := Operator.symbolize request.expression
  let (read, readLog) := Syntax.readLogged (request.settings catalog) expression
  let log := if request.trace then ⟨.debug, "symbolized: ".toList ++ expression⟩ :: readLog else []
  match read with
  | .error e => ⟨[], log, some (.unreadable expression e)⟩
  | .ok e =>
      let output := shown request e
      if catalog.isEmpty then ⟨output, log, none⟩
      else
        let log := if request.trace then log ++ resolveLog catalog e else log
        match evaluate catalog e with
        | .error cause => ⟨output, log, some (.unevaluable cause)⟩
        | .ok frame => ⟨output ++ frame.toText, log, none⟩

/-- Carries out a request. If it names paths, some relation has to be found there. -/
def Request.run (request : Request) (disk : Disk Char) : Result :=
  let (catalog, outcomes) := Loader.loadCatalog disk request.paths
  let log := Loader.log disk request.paths outcomes
  if !request.paths.isEmpty && catalog.isEmpty then ⟨[], log, some .nothingLoaded⟩
  else
    let result := runOn request catalog
    { result with log := log ++ result.log }

/-- The help text. -/
def helpText : String :=
"Parse and evaluate relational algebra expressions

Usage: relalg [OPTIONS] <EXPRESSION> [PATHS]...

Arguments:
  <EXPRESSION>  Relational algebra expression, with symbols or aliases
  [PATHS]...    Paths to parquet/csv/ipc files or directories

Options:
      --trace                            Log every parser step
      --strict                           Reject relation names that were not loaded from PATHS
      --tree                             Print the expression as an indented tree
      --json                             Print the AST as JSON
      --max-depth <MAX_DEPTH>            Maximum parenthesis nesting depth [default: 64]
      --max-tree-depth <MAX_TREE_DEPTH>  Maximum height of the expression tree, operator chains included [default: 1024]
  -h, --help                             Print help

EXAMPLES:
    # Show the parsed form of an expression
    relalg 'select_ \x7bA > 2\x7d (R union S)'

    # Evaluate against files; each file is a relation named after its stem
    relalg 'U join_ V' data/U.csv data/V.csv

    # Load every csv/parquet/ipc file in a directory
    relalg --tree 'project_ \x7bA,C\x7d (R minus S)' ./data/
"

end RelQuery.Command
