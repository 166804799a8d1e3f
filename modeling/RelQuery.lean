import RelQuery.Syntax.Trace
import RelQuery.Expr.Json
import RelQuery.Binary64.Decimal
import RelQuery.Condition.Read
import RelQuery.Evaluate
import RelQuery.Command
import RelQuery.Main
import RelQuery.Proofs.Text.Nesting
import RelQuery.Proofs.Text.Replace
import RelQuery.Proofs.Text.Runs
import RelQuery.Proofs.Text.Pieces
import RelQuery.Proofs.Operator.Spelling
import RelQuery.Proofs.Expr.Nodes
import RelQuery.Proofs.Expr.Printed
import RelQuery.Proofs.Expr.Change
import RelQuery.Proofs.Syntax.Lexing
import RelQuery.Proofs.Expr.Outline
import RelQuery.Proofs.Syntax.Step
import RelQuery.Proofs.Syntax.Accepted
import RelQuery.Proofs.Syntax.Sound
import RelQuery.Proofs.Syntax.Turn
import RelQuery.Proofs.Syntax.Limits
import RelQuery.Proofs.Syntax.Printing
import RelQuery.Proofs.Syntax.RoundTrip
import RelQuery.Proofs.Syntax.Operators
import RelQuery.Proofs.Syntax.Lockstep
import RelQuery.Proofs.Syntax.Opacity
import RelQuery.Proofs.Syntax.Layout
import RelQuery.Proofs.Syntax.Conditions
import RelQuery.Proofs.Syntax.Sources
import RelQuery.Proofs.Syntax.Enclosed
import RelQuery.Proofs.Syntax.Places
import RelQuery.Proofs.Syntax.Known
import RelQuery.Proofs.Syntax.Names
import RelQuery.Proofs.Syntax.Mentions
import RelQuery.Proofs.Syntax.Symbolized
import RelQuery.Proofs.Table.Catalog
import RelQuery.Proofs.Files.Load
import RelQuery.Proofs.Table.Row
import RelQuery.Proofs.Table.References
import RelQuery.Proofs.Table.Typed
import RelQuery.Proofs.Table.Relation
import RelQuery.Proofs.Table.Outcome
import RelQuery.Proofs.Table.Operations
import RelQuery.Proofs.Table.Joins
import RelQuery.Proofs.Table.Rectangular
import RelQuery.Proofs.Table.Repetitions
import RelQuery.Proofs.Table.Projection
import RelQuery.Proofs.Table.NaturalJoin
import RelQuery.Proofs.Table.Predicate
import RelQuery.Proofs.Table.Selection
import RelQuery.Proofs.Evaluate.Resolve
import RelQuery.Proofs.Evaluate.Checked
import RelQuery.Proofs.Evaluate.Errors
import RelQuery.Proofs.Evaluate.Loaded
import RelQuery.Proofs.Evaluate.Shows
import RelQuery.Proofs.Evaluate.Columns
import RelQuery.Proofs.Evaluate.Denotation
import RelQuery.Proofs.Evaluate.Results
import RelQuery.Proofs.Evaluate.Distinct
import RelQuery.Proofs.Evaluate.SetRows
import RelQuery.Proofs.Evaluate.NaturalJoin
import RelQuery.Proofs.Condition.Words
import RelQuery.Proofs.Condition.Attributes
import RelQuery.Proofs.Condition.Written
import RelQuery.Proofs.Condition.Lexemes
import RelQuery.Proofs.Condition.Grammar
import RelQuery.Proofs.Condition.Apart
import RelQuery.Proofs.Condition.Closing
import RelQuery.Proofs.Condition.Quotes
import RelQuery.Proofs.Condition.Drafts
import RelQuery.Proofs.Condition.Templates
import RelQuery.Proofs.Condition.Combined
import RelQuery.Proofs.Condition.Numerals
import RelQuery.Proofs.Condition.Operands
import RelQuery.Proofs.Evaluate.Selection
import RelQuery.Proofs.Evaluate.Pushdown
import RelQuery.Proofs.Evaluate.Partition
import RelQuery.Proofs.Evaluate.Projection
import RelQuery.Proofs.Evaluate.Union
import RelQuery.Proofs.Evaluate.Intersection
import RelQuery.Proofs.Expr.Postorder
import RelQuery.Proofs.Evaluate.FirstFailure
import RelQuery.Proofs.Evaluate.ConditionalJoin
import RelQuery.Proofs.Table.Comparison
import RelQuery.Proofs.Evaluate.Comparisons
import RelQuery.Proofs.Text.Wrapped
import RelQuery.Proofs.Syntax.Tracing
import RelQuery.Proofs.Evaluate.Compatible
import RelQuery.Proofs.Text.Order
import RelQuery.Proofs.Files.Path
import RelQuery.Proofs.Files.Tree
import RelQuery.Proofs.Files.Collect
