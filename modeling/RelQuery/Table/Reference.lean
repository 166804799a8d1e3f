import RelQuery.Regex.Read
import RelQuery.Table.Frame

/-!
# References to columns

A name in a plan refers to the column of that name, with two exceptions: an asterisk refers to all
columns, and a text from a circumflex to a dollar sign is a regular expression and refers to the
columns whose names it is found in. A column with such a name cannot be referred to by its name.
-/

namespace RelQuery.Schema

/-- Whether a name is a regular expression. -/
def isExpression (name : Text) : Bool :=
  name.head? = some '^' && name.getLast? = some '$'

/-- Whether a name refers to columns by what they are called and not to one of that name. -/
def isWildcard (name : Text) : Bool :=
  name = ['*'] || isExpression name

/-- The names of the columns that a name refers to, in their order. There is no answer for a text
that is not the regular expression that it should be. -/
def referred? (schema : Schema) (name : Text) : Option (List Text) :=
  if name = ['*'] then some schema.names
  else if isExpression name then
    (Regex.read? name).map fun regex => schema.names.filter regex.isFoundIn
  else some [name]

/-- The names of the columns that some names refer to, those of the first name first. -/
def referredAll? (schema : Schema) (names : List Text) : Option (List Text) :=
  (names.mapM schema.referred?).map List.flatten

/-- A name that is no wildcard refers to its own column. -/
theorem referred?_eq {schema : Schema} {name : Text} (h : isWildcard name = false) :
    schema.referred? name = some [name] := by
  simp only [isWildcard, Bool.or_eq_false_iff, decide_eq_false_iff_not] at h
  simp [referred?, h.1, h.2]

/-- Some names refer to what the first one and the others do. -/
theorem referredAll?_cons_eq_some_iff {schema : Schema} {name : Text} {names referred : List Text} :
    schema.referredAll? (name :: names) = some referred ↔
      ∃ first rest, schema.referred? name = some first ∧ schema.referredAll? names = some rest ∧
        first ++ rest = referred := by
  simp only [referredAll?, List.mapM_cons, Option.map_eq_some_iff, Option.bind_eq_bind,
    Option.bind_eq_some_iff, Option.pure_def, Option.some.injEq]
  constructor
  · rintro ⟨_, ⟨first, hfirst, rest, hrest, rfl⟩, rfl⟩
    exact ⟨first, rest.flatten, hfirst, ⟨rest, hrest, rfl⟩, rfl⟩
  · rintro ⟨first, _, hfirst, ⟨rest, hrest, rfl⟩, rfl⟩
    exact ⟨first :: rest, ⟨first, hfirst, rest, hrest, rfl⟩, rfl⟩

/-- Names that refer to their own columns do so together. -/
theorem referredAll?_of_self {schema : Schema} {names : List Text}
    (h : ∀ name ∈ names, schema.referred? name = some [name]) :
    schema.referredAll? names = some names := by
  induction names with
  | nil => rfl
  | cons name names ih =>
      obtain ⟨hname, hnames⟩ := List.forall_mem_cons.1 h
      exact referredAll?_cons_eq_some_iff.2 ⟨[name], names, hname, ih hnames, rfl⟩

/-- Names that are no wildcards refer to their own columns. -/
theorem referredAll?_eq {schema : Schema} {names : List Text}
    (h : ∀ name ∈ names, isWildcard name = false) : schema.referredAll? names = some names :=
  referredAll?_of_self fun name hname => referred?_eq (h name hname)

end RelQuery.Schema
