import RelQuery.Table.Frame

/-!
# Catalogs

A catalog holds relations by name in the order in which the names were first used.
-/

namespace RelQuery

/-- Relations by name. -/
structure Catalog where
  entries : List (Text × Frame) := []
  deriving DecidableEq, Repr, Inhabited

namespace Catalog

/-- A catalog without relations. -/
def empty : Catalog := {}

/-- The relation of that name. -/
def get? (catalog : Catalog) (name : Text) : Option Frame :=
  catalog.entries.lookup name

/-- The names in their order. -/
def names (catalog : Catalog) : List Text :=
  catalog.entries.map Prod.fst

/-- Whether there is a relation of that name. -/
def contains (catalog : Catalog) (name : Text) : Bool :=
  catalog.names.contains name

/-- Puts a relation into entries: over the one of that name, or else behind the last. -/
def insertEntry (name : Text) (frame : Frame) : List (Text × Frame) → List (Text × Frame)
  | [] => [(name, frame)]
  | entry :: entries =>
      if entry.1 = name then (name, frame) :: entries
      else entry :: insertEntry name frame entries

/-- Adds a relation, or replaces the one of that name in its place. -/
def insert (catalog : Catalog) (name : Text) (frame : Frame) : Catalog :=
  ⟨insertEntry name frame catalog.entries⟩

/-- The number of relations. -/
def size (catalog : Catalog) : Nat := catalog.entries.length

/-- Whether there is no relation. -/
def isEmpty (catalog : Catalog) : Bool := catalog.entries.isEmpty

end Catalog

end RelQuery
