import RelQuery.Condition.Read
import RelQuery.Operator
import RelQuery.Proofs.Table.Typed
import RelQuery.Table.Selection
import Mathlib.Data.Set.Operations

/-!
# Relations as sets of tuples

The relational algebra of textbooks. A tuple gives every attribute a value, a relation is a set of
tuples over its attributes, and the operators are operations on these sets. Attributes are matched
by name, wherever their columns stand, so a tuple knows no order of columns and a relation lists its
attributes only to show them.

`Frame.relation` is the relation that a frame shows, and the rows of a typed frame are those that
show a tuple of it (`Frame.Typed.mem_rows_iff`).
-/

namespace RelQuery

/-- A value for every name; where there is no attribute, the value is missing. -/
abbrev Tuple := Text → Cell

/-- The values of a tuple in some attributes. -/
def Tuple.restrict (names : List Text) (t : Tuple) : Tuple := fun name =>
  if name ∈ names then t name else .missing

/-- A set of tuples over some attributes. -/
structure Relation where
  columns : List Text
  tuples : Set Tuple

namespace Condition

/-- What an operand stands for in a tuple over some attributes. A bare word is the attribute of that
name if there is one, and text otherwise. -/
def Operand.value (columns : List Text) (t : Tuple) : Operand → Cell
  | word w => if w ∈ columns then t w else .text w
  | literal value => value.cell

/-- Whether a predicate is true of a tuple over some attributes. -/
def Predicate.Holds (columns : List Text) (t : Tuple) : Predicate → Prop
  | compare op lhs rhs => ∃ order,
      (lhs.value columns t).compare? (rhs.value columns t) = some order ∧ op.holds order
  | and lhs rhs => lhs.Holds columns t ∧ rhs.Holds columns t
  | or lhs rhs => lhs.Holds columns t ∨ rhs.Holds columns t
  | not inner => ¬ inner.Holds columns t

end Condition

namespace Relation

/-- The tuples of which a predicate is true. -/
def select (r : Relation) (predicate : Condition.Predicate) : Relation where
  columns := r.columns
  tuples := {t | t ∈ r.tuples ∧ predicate.Holds r.columns t}

/-- The values of all tuples in some attributes. -/
def project (r : Relation) (names : List Text) : Relation where
  columns := names
  tuples := Tuple.restrict names '' r.tuples

/-- The tuples of either relation. -/
def union (r s : Relation) : Relation where
  columns := r.columns
  tuples := r.tuples ∪ s.tuples

/-- The tuples of both relations. -/
def intersect (r s : Relation) : Relation where
  columns := r.columns
  tuples := r.tuples ∩ s.tuples

/-- The tuples of one relation that are none of the other. -/
def difference (r s : Relation) : Relation where
  columns := r.columns
  tuples := r.tuples \ s.tuples

/-- A tuple has the values of `a` in the attributes `left`, those of `b` in the attributes `right`
under the names that these get beside the others, and no more. -/
structure Merges (left right : List Text) (rename : Text → Text) (a b t : Tuple) : Prop where
  left_eq : ∀ name ∈ left, t name = a name
  right_eq : ∀ name ∈ right, t (rename name) = b name
  missing : ∀ name, name ∉ left → name ∉ right.map rename → t name = .missing

/-- The pairs of tuples that agree on all attributes of both relations, merged into one tuple. -/
def naturalJoin (r s : Relation) : Relation where
  columns := r.columns ++ s.columns.filter fun name => !r.columns.contains name
  tuples := {t | ∃ a ∈ r.tuples, ∃ b ∈ s.tuples, Merges r.columns s.columns id a b t}

/-- The name of an attribute beside others, one of which may have the same name. -/
def nameBeside (columns : List Text) (name : Text) : Text :=
  if columns.contains name then name ++ "_right".toList else name

/-- All pairs of tuples. An attribute on the right is renamed if there is one of its name on the
left. -/
def product (r s : Relation) : Relation where
  columns := r.columns ++ s.columns.map (nameBeside r.columns)
  tuples := {t | ∃ a ∈ r.tuples, ∃ b ∈ s.tuples,
    Merges r.columns s.columns (nameBeside r.columns) a b t}

/-- A unary operator on a relation, if its condition can be read. -/
def unary? (op : Operator) (condition : Text) (r : Relation) : Option Relation :=
  match op with
  | .select => (Condition.readPredicate condition).toOption.map r.select
  | .project => (Condition.readAttributes condition).toOption.map r.project
  | _ => none

/-- A set operator on two relations. -/
def setOp? (op : Operator) (r s : Relation) : Option Relation :=
  match op with
  | .union => some (r.union s)
  | .intersect => some (r.intersect s)
  | .difference => some (r.difference s)
  | _ => none

/-- A join of two relations. -/
def join? (op : Operator) (r s : Relation) : Option Relation :=
  match op with
  | .naturalJoin => some (r.naturalJoin s)
  | .cartesian => some (r.product s)
  | .thetaJoin => some (r.product s)
  | _ => none

end Relation

namespace Frame

/-- The relation that a frame shows: its rows as tuples over its columns. -/
def relation (frame : Frame) : Relation where
  columns := frame.schema.names
  tuples := {t | ∃ row ∈ frame.rows, row.cell frame.schema = t}

variable {frame : Frame} {row : Row}

/-- Outside its columns a row has no value. -/
theorem Typed.cell_of_not_mem {name : Text} (h : frame.Typed) (hrow : row ∈ frame.rows)
    (hname : name ∉ frame.schema.names) : row.cell frame.schema name = .missing :=
  Row.cell_of_not_mem (h.length_eq hrow) hname

/-- The rows of a frame are those that show a tuple of its relation. -/
theorem Typed.mem_rows_iff (h : frame.Typed) :
    row ∈ frame.rows ↔
      row.length = frame.schema.length ∧ row.cell frame.schema ∈ frame.relation.tuples := by
  constructor
  · intro hrow
    exact ⟨h.length_eq hrow, row, hrow, rfl⟩
  · rintro ⟨hlength, other, hother, hcell⟩
    have hrow : other = row := Row.eq_of_cell_eq h.names_nodup (h.length_eq hother) hlength
      fun name _ => congrFun hcell name
    exact hrow ▸ hother

end Frame

end RelQuery
