import RelQuery.Text

/-!
# Directory trees

The files that a program can see, as a value: a file with its text, or a directory with its entries
in any order. A path leads from a directory to one of these; it leads nowhere once it goes on behind
a file, leaves the tree, or begins at a root, and neither if it is too long (`pathLimit`).
-/

namespace RelQuery

/-- A file or a directory. -/
inductive FileTree where
  | file (content : Text)
  | directory (entries : List (Text × FileTree))
  deriving Inhabited

namespace FileTree

/-- Whether this is a file. -/
def isFile : FileTree → Bool
  | file _ => true
  | directory _ => false

/-- The entries of a directory in the order of their names; a file has none. -/
def sortedEntries : FileTree → List (Text × FileTree)
  | file _ => []
  | directory entries => entries.mergeSort fun a b => Text.compare a.1 b.1 != .gt

/-- What an entry holds is smaller than its directory. -/
theorem sizeOf_lt_of_mem_sortedEntries {tree : FileTree} {entry : Text × FileTree}
    (h : entry ∈ tree.sortedEntries) : sizeOf entry.2 < sizeOf tree := by
  cases tree with
  | file content => simp [sortedEntries] at h
  | directory entries =>
    have hs := List.sizeOf_lt_of_mem (List.mem_mergeSort.1 h)
    obtain ⟨name, inner⟩ := entry
    simp only [Prod.mk.sizeOf_spec, directory.sizeOf_spec] at hs ⊢
    omega

/-- The files of a tree and the parts of the paths that lead to them, in the order of the parts. -/
def files (tree : FileTree) : List (List Text × Text) :=
  match tree with
  | file content => [([], content)]
  | directory entries =>
      (directory entries).sortedEntries.attach.flatMap fun ⟨(name, inner), _⟩ =>
        inner.files.map fun (parts, content) => (name :: parts, content)
termination_by sizeOf tree
decreasing_by exact sizeOf_lt_of_mem_sortedEntries (by assumption)

/-- The files of a tree, those of a directory before those of the directories in it. -/
def filesByDepth (tree : FileTree) : List (List Text × Text) :=
  tree.files.mergeSort fun a b => a.1.length ≤ b.1.length

/-- Takes one step of a path, given the directories above from the inside out: to an entry, to the
directory above, or to the same directory. -/
def step (above : List FileTree) (here : FileTree) (part : Text) :
    Option (List FileTree × FileTree) :=
  match here with
  | file _ => none
  | directory entries =>
      if part = [] ∨ part = ['.'] then some (above, here)
      else if part = ['.', '.'] then
        match above with
        | [] => none
        | outer :: above => some (above, outer)
      else (entries.lookup part).map fun inner => (here :: above, inner)

/-- Follows the parts of a path from a directory, given the directories above it from the inside
out. -/
def follow (above : List FileTree) (here : FileTree) : List Text → Option FileTree
  | [] => some here
  | part :: rest =>
      match step above here part with
      | none => none
      | some (above, here) => follow above here rest

/-- The number of bytes below which the length of a path has to be. -/
def pathLimit : Nat := 4096

/-- What a path leads to. -/
def find? (root : FileTree) (path : Text) : Option FileTree :=
  if path.isEmpty ∨ path.head? = some '/' ∨ pathLimit ≤ Text.utf8Length path then none
  else follow [] root (Text.splitOn '/' path)

/-- What paths lead to. -/
abbrev Look := Text → Option FileTree

/-- Puts an entry into entries, over one of the same name. -/
def putEntry (name : Text) (entry : FileTree) :
    List (Text × FileTree) → List (Text × FileTree)
  | [] => [(name, entry)]
  | other :: entries =>
      if other.1 = name then (name, entry) :: entries else other :: putEntry name entry entries

/-- The tree with a file or directory at a place, and with the directories that lead there. -/
def put (tree : FileTree) (parts : List Text) (entry : FileTree) : FileTree :=
  match parts with
  | [] => entry
  | part :: rest =>
      let entries := match tree with
        | file _ => []
        | directory entries => entries
      let inner := (entries.lookup part).getD (directory [])
      directory (putEntry part (inner.put rest entry) entries)

end FileTree

end RelQuery
