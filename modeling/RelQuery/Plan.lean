import RelQuery.Table.Reference
import RelQuery.Table.Selection

/-!
# Plans

A plan says how to compute a frame from frames at hand. Whether it can be carried out and with which
columns depends on the columns of the frames alone: `schema` checks names and types of columns, and
`comparable` the comparisons. Only then are rows computed, by `frame`.

Frames can be appended that have the same columns, of the same types and in any order: the columns of
the right one are put in the order of the left one. The order in which a projection above lists them
has no part in this check.
-/

namespace RelQuery

/-- How to compute a frame. -/
inductive Plan where
  /-- A frame at hand. -/
  | scan (frame : Frame)
  /-- The rows on which a predicate is true. -/
  | filter (predicate : Condition.Predicate) (input : Plan)
  /-- The columns that those names refer to, in that order. -/
  | select (names : List Text) (input : Plan)
  /-- The first of the rows that are repetitions of each other. -/
  | distinct (input : Plan)
  /-- The rows of both, with the columns of the right one in the order of the left one. -/
  | append (left right : Plan)
  /-- The rows that match one of the other in the columns of those names. -/
  | semiJoin (names : List Text) (left right : Plan)
  /-- The rows that match none of the other in the columns of those names. -/
  | antiJoin (names : List Text) (left right : Plan)
  /-- The pairs of rows that match in the columns of those names. -/
  | innerJoin (names : List Text) (left right : Plan)
  /-- The pairs of rows. -/
  | product (left right : Plan)
  deriving Repr

namespace Plan

/-- Why a plan cannot be carried out. -/
inductive Fault where
  /-- The result would have two columns of one name. -/
  | repeatedColumn
  /-- The frames to append have different columns, or columns of different types. -/
  | differentColumns
  /-- A name is not the regular expression that it should be. -/
  | badReference
  /-- There are no columns to match. -/
  | nothingToMatch
  /-- Of the columns to match, one is not referred to by its name. -/
  | wildcardToMatch
  /-- The columns to match have types whose values never match. -/
  | unmatchableColumns
  /-- A predicate compares text with a number. -/
  | incomparable
  deriving DecidableEq, Repr

/-- A schema in which no name occurs twice. -/
def checkNames (schema : Schema) : Except Fault Schema :=
  if schema.distinctNames then .ok schema else .error .repeatedColumn

/-- The columns that names refer to, among which no name occurs twice. -/
def checkSelect (names : List Text) (schema : Schema) : Except Fault Schema :=
  match schema.referredAll? names with
  | none => .error .badReference
  | some names => checkNames (schema.select names)

/-- Whether the columns of those names can be matched. -/
def checkMatch (names : List Text) (left right : Schema) : Except Fault Unit :=
  if names.isEmpty then .error .nothingToMatch
  else if names.any Schema.isWildcard then .error .wildcardToMatch
  else if names.all fun name =>
      match left.column? name, right.column? name with
      | some a, some b => a.dtype.matchable b.dtype
      | _, _ => false
    then .ok ()
  else .error .unmatchableColumns

/-- The columns of the result. Of two faults the one that the plan meets first is reported, from
left to right and from the inside. -/
def schema : Plan → Except Fault Schema
  | scan frame => .ok frame.schema
  | filter _ input => input.schema
  | select names input => do checkSelect names (← input.schema)
  | distinct input => input.schema
  | append left right => do
      let left ← left.schema
      let right ← right.schema
      if left.Perm right then .ok left else .error .differentColumns
  | semiJoin names left right => do
      let left ← left.schema
      let right ← right.schema
      checkMatch names left right
      .ok left
  | antiJoin names left right => do
      let left ← left.schema
      let right ← right.schema
      checkMatch names left right
      .ok left
  | innerJoin names left right => do
      let left ← left.schema
      let right ← right.schema
      checkMatch names left right
      checkNames (left ++ right.without names)
  | product left right => do
      let left ← left.schema
      let right ← right.schema
      checkNames (left ++ left.besides right)

/-- Whether all predicates compare values of comparable types, in a plan that has a schema. -/
def comparable : Plan → Bool
  | scan _ => true
  | filter predicate input =>
      input.comparable &&
        match input.schema with
        | .ok schema => predicate.comparable schema
        | .error _ => true
  | select _ input => input.comparable
  | distinct input => input.comparable
  | append left right => left.comparable && right.comparable
  | semiJoin _ left right => left.comparable && right.comparable
  | antiJoin _ left right => left.comparable && right.comparable
  | innerJoin _ left right => left.comparable && right.comparable
  | product left right => left.comparable && right.comparable

/-- The frame that the plan describes. -/
def frame : Plan → Frame
  | scan frame => frame
  | filter predicate input =>
      let input := input.frame
      input.filter (predicate.keeps input.schema)
  | select names input =>
      let input := input.frame
      input.select ((input.schema.referredAll? names).getD [])
  | distinct input => input.frame.distinct
  | append left right => left.frame.append right.frame
  | semiJoin names left right => left.frame.semiJoin names right.frame
  | antiJoin names left right => left.frame.antiJoin names right.frame
  | innerJoin names left right => left.frame.innerJoin names right.frame
  | product left right => left.frame.product right.frame

/-- Carries out a plan. Faults of columns come before those of predicates. -/
def collect (plan : Plan) : Except Fault Frame := do
  let _ ← plan.schema
  if plan.comparable then .ok plan.frame else .error .incomparable

end Plan

end RelQuery
