import RelQuery.Condition.Read
import RelQuery.Log
import RelQuery.Plan
import RelQuery.Syntax.Read
import RelQuery.Table.Catalog
import RelQuery.Text.Quoted

/-!
# Evaluating expressions

An expression over the relations of a catalog becomes a plan, operands first and the left one before
the right one; names, columns and conditions are checked on the way. Relations are sets: projections
and set operators drop repeated rows, and of equal rows the first is kept.
-/

namespace RelQuery

/-- Why an expression cannot be evaluated. -/
inductive EvalError where
  | unknownRelation (name : Text)
  /-- The context shows where the column was asked for. -/
  | unknownColumn (column context : Text)
  /-- A set operator has operands over different columns. -/
  | incompatibleSchemas (op : Operator) (lhs rhs : List Text)
  /-- The operator does not belong to the kind of node that it is in. -/
  | misplacedOperator (op : Operator) (role : Category)
  | condition (error : Condition.ConditionError)
  /-- The columns or values do not allow what the plan asks for. -/
  | fault (fault : Plan.Fault)
  deriving DecidableEq, Repr

/-- The word for the operators of a category. -/
def Category.word : Category → Text
  | set => "set".toList
  | unary => "unary".toList
  | join => "join".toList

/-- The text for a fault of a plan. -/
def Plan.Fault.message : Plan.Fault → Text
  | repeatedColumn => "duplicate: a column name is repeated".toList
  | differentColumns => "invalid operation: the columns to append differ".toList
  | badReference => "invalid operation: a column name is no proper regular expression".toList
  | wildcardToMatch => "invalid operation: columns to match must be named".toList
  | nothingToMatch => "invalid operation: there are no columns to match".toList
  | unmatchableColumns => "schema mismatch: the columns to match have different types".toList
  | incomparable => "cannot compare string with numeric type".toList

/-- The text of an error. -/
def EvalError.message : EvalError → Text
  | unknownRelation name => "Unknown relation: ".toList ++ name
  | unknownColumn column context =>
      "Unknown column '".toList ++ column ++ "' in ".toList ++ context
  | incompatibleSchemas op lhs rhs =>
      "Incompatible schemas for ".toList ++ op.word ++ ": ".toList ++ Text.quotedList lhs ++
        " vs ".toList ++ Text.quotedList rhs
  | misplacedOperator op role =>
      op.word ++ " is not a ".toList ++ role.word ++ " operator".toList
  | condition e => "Condition error: ".toList ++ e.message
  | fault f => "Polars error: ".toList ++ f.message

/-- The names of the columns of a plan's result. -/
def columnNames (plan : Plan) : Except EvalError (List Text) :=
  (plan.schema.map Schema.names).mapError .fault

/-- Whether two lists of column names have the same names in any order, when no name repeats in
either. -/
def sameColumns (lhs rhs : List Text) : Bool :=
  lhs.length = rhs.length && lhs.all fun name => rhs.contains name

/-- The rows on which a condition is true. -/
def planSelection (input : Plan) (condition : Text) : Except EvalError Plan := do
  let _ ← columnNames input
  let predicate ← (Condition.readPredicate condition).mapError .condition
  .ok (.filter predicate input)

/-- The columns that a condition lists, without repeated rows. -/
def planProjection (input : Plan) (condition : Text) : Except EvalError Plan := do
  let columns ← columnNames input
  let names ← (Condition.readAttributes condition).mapError .condition
  match names.find? fun name => !columns.contains name with
  | some name =>
      .error (.unknownColumn name ("projection \x7b".toList ++ condition ++ ['}']))
  | none => .ok (.distinct (.select names input))

/-- A unary operator on its operand. -/
def planUnary (op : Operator) (input : Plan) (condition : Text) : Except EvalError Plan :=
  match op with
  | .select => planSelection input condition
  | .project => planProjection input condition
  | _ => .error (.misplacedOperator op .unary)

/-- A set operator on its operands. The columns of the right one are put in the order of the left
one. -/
def planSet (op : Operator) (lhs rhs : Plan) : Except EvalError Plan :=
  if op.category = .set then do
    let left ← columnNames lhs
    let right ← columnNames rhs
    if sameColumns left right then
      let aligned := Plan.select left rhs
      match op with
      | .union => .ok (.distinct (.append lhs aligned))
      | .intersect => .ok (.distinct (.semiJoin left lhs aligned))
      | .difference => .ok (.distinct (.antiJoin left lhs aligned))
      | _ => .error (.misplacedOperator op .set)
    else .error (.incompatibleSchemas op left right)
  else .error (.misplacedOperator op .set)

/-- A join of its operands. A natural join over no common column pairs all rows. -/
def planJoin (op : Operator) (lhs rhs : Plan) : Except EvalError Plan :=
  match op with
  | .naturalJoin => do
      let left ← columnNames lhs
      let right ← columnNames rhs
      let common := left.filter fun name => right.contains name
      if common.isEmpty then .ok (.product lhs rhs) else .ok (.innerJoin common lhs rhs)
  | .cartesian => .ok (.product lhs rhs)
  | .thetaJoin => .ok (.product lhs rhs)
  | _ => .error (.misplacedOperator op .join)

/-- The plan for an expression. -/
def resolve (catalog : Catalog) : Expr → Except EvalError Plan
  | .relation name _ =>
      match catalog.get? name with
      | some frame => .ok (.scan frame)
      | none => .error (.unknownRelation name)
  | .unary op condition operand _ => do
      planUnary op (← resolve catalog operand) condition
  | .setOp op lhs rhs _ => do
      planSet op (← resolve catalog lhs) (← resolve catalog rhs)
  | .join op lhs rhs _ => do
      planJoin op (← resolve catalog lhs) (← resolve catalog rhs)
  | .conditionalJoin op condition lhs rhs _ => do
      planSelection (← planJoin op (← resolve catalog lhs) (← resolve catalog rhs)) condition

/-- The frame that an expression denotes. -/
def evaluate (catalog : Catalog) (e : Expr) : Except EvalError Frame := do
  (← resolve catalog e).collect.mapError .fault

/-- The log line about a composite node that is about to be resolved. -/
def resolveLine (e : Expr) : List LogLine :=
  match e.operator? with
  | none => []
  | some op =>
      [⟨.debug, "resolving ".toList ++ op.word ++ " node: ".toList ++ e.source⟩]

/-- The log of two operands: the second is resolved only if the first one was. -/
def logBoth (catalog : Catalog) (lhs : Expr) (lhsLog rhsLog : List LogLine) : List LogLine :=
  match resolve catalog lhs with
  | .ok _ => lhsLog ++ rhsLog
  | .error _ => lhsLog

/-- The log of resolving an expression, up to the first error. -/
def resolveLog (catalog : Catalog) (e : Expr) : List LogLine :=
  resolveLine e ++
    match e with
    | .relation _ _ => []
    | .unary _ _ operand _ => resolveLog catalog operand
    | .setOp _ lhs rhs _ => logBoth catalog lhs (resolveLog catalog lhs) (resolveLog catalog rhs)
    | .join _ lhs rhs _ => logBoth catalog lhs (resolveLog catalog lhs) (resolveLog catalog rhs)
    | .conditionalJoin _ _ lhs rhs _ =>
        logBoth catalog lhs (resolveLog catalog lhs) (resolveLog catalog rhs)

/-- Why a query cannot be run. -/
inductive RunError where
  | read (error : Syntax.ReadError)
  | eval (error : EvalError)
  deriving DecidableEq, Repr

/-- The text of an error. -/
def RunError.message : RunError → Text
  | read e => "Parse error: ".toList ++ e.message
  | eval e => "Eval error: ".toList ++ e.message

/-- Runs a query. It may mention the relations of the catalog and no others. -/
def run (catalog : Catalog) (query : Text) : Except RunError Frame := do
  let e ← (Syntax.readQuery { known := some catalog.names } query).mapError .read
  (evaluate catalog e).mapError .eval

end RelQuery
