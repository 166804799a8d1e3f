import RelQuery.Text.Utf8

/-!
# Paths

A path has slashes between its parts. It is a list of bytes, or of characters where all names are
text; nothing here asks which (`PathChar`). The name of a relation is the name of its file without
the extension, as far as that is text.

Paths are ordered by their components and not by their characters: what leads from a root comes
first, and a directory above comes before all that has a name.
-/

namespace RelQuery

/-- What paths are made of. -/
class PathChar (α : Type) where
  slash : α
  dot : α
  /-- The place in the order of names. -/
  rank : α → Nat
  /-- The text that a name is, if it is text. -/
  text? : List α → Option Text
  /-- The text that is shown for a path. -/
  shown : List α → Text
  slash_ne_dot : slash ≠ dot
  rank_injective : ∀ a b, rank a = rank b → a = b

/-- Paths of names that are text. -/
instance : PathChar Char where
  slash := '/'
  dot := '.'
  rank := Char.toNat
  text? := some
  shown := id
  slash_ne_dot := by decide
  rank_injective _ _ := Char.toNat_inj.1

/-- Paths as a file system has them. -/
instance : PathChar UInt8 where
  slash := 0x2F
  dot := 0x2E
  rank := UInt8.toNat
  text? := Utf8.text?
  shown := Utf8.shown
  slash_ne_dot := by decide
  rank_injective _ _ := UInt8.toNat_inj.1

namespace Path

open PathChar (slash dot)

variable {α : Type} [DecidableEq α] [PathChar α]

/-- The parts between the slashes, without the empty ones and without dots behind the first. -/
def parts (path : List α) : List (List α) :=
  match Text.splitOn slash path with
  | [] => []
  | first :: rest =>
      (if first.isEmpty then [] else [first]) ++
        rest.filter fun part => part ≠ [] && part ≠ [dot]

/-- The last part, if it names a file and not a place such as the directory above. -/
def fileName? (path : List α) : Option (List α) :=
  (parts path).getLast?.filter fun part => part ≠ [dot] && part ≠ [dot, dot]

/-- A file name before and behind its last dot. A dot in front does not count. -/
def splitExtension (name : List α) : List α × Option (List α) :=
  let behind := name.reverse.takeWhile (· ≠ dot)
  let before := name.reverse.drop (behind.length + 1)
  if behind.length = name.length ∨ before.isEmpty then (name, none)
  else (before.reverse, some behind.reverse)

/-- The file name without its extension. -/
def stem? (path : List α) : Option (List α) :=
  (fileName? path).map fun name => (splitExtension name).1

/-- What follows the last dot of the file name. -/
def extension? (path : List α) : Option (List α) :=
  (fileName? path).bind fun name => (splitExtension name).2

/-- The extension, if it is text. -/
def extensionText? (path : List α) : Option Text :=
  (extension? path).bind PathChar.text?

/-- The name of the relation in a file: what stands before the extension. It is `unknown` for all
files of which that is no text, and for paths that end in no file name. -/
def relationName (path : List α) : Text :=
  ((stem? path).bind PathChar.text?).getD "unknown".toList

/-- The extensions of files that hold a table. -/
def tableExtensions : List Text :=
  ["parquet".toList, "csv".toList, "ipc".toList, "arrow".toList]

/-- Whether a file of that name holds a table. -/
def isTable (path : List α) : Bool :=
  (extensionText? path).any fun extension => tableExtensions.contains extension

/-- The path of an entry of a directory. -/
def within (directory name : List α) : List α :=
  if directory.isEmpty ∨ directory.getLast? = some slash then directory ++ name
  else directory ++ slash :: name

/-- What a part of a path stands for. -/
inductive Component (α : Type) where
  /-- The slash in front. -/
  | root
  /-- The directory that one is in. -/
  | here
  /-- The directory above. -/
  | above
  | named (name : List α)
  deriving DecidableEq, Repr

/-- What a part between slashes stands for. -/
def Component.ofPart (part : List α) : Component α :=
  if part = [dot] then here else if part = [dot, dot] then above else named part

/-- The place of a component in the order of components: by its kind, and then by its name. -/
def Component.key : Component α → List Nat
  | root => [0]
  | here => [1]
  | above => [2]
  | named name => 3 :: name.map PathChar.rank

/-- The components of a path. -/
def components (path : List α) : List (Component α) :=
  (if path.head? = some slash then [.root] else []) ++ (parts path).map .ofPart

/-- The place of a path in the order of paths. -/
def key (path : List α) : List (List Nat) :=
  (components path).map Component.key

/-- The order of paths: the first different component decides, and a path comes before those that go
on behind it. -/
def compare (left right : List α) : Ordering :=
  compareOn key left right

end Path

end RelQuery
