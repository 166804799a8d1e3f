import RelQuery.Files.Csv
import RelQuery.Files.Glob
import RelQuery.Files.Load

/-!
# Reading the files of a tree

A path from which a table is loaded may stand for several files (`sources`): as a directory for all
that is in it, and as a pattern for all that the pattern finds. The files of a tree are text, of
which the ones in the format of CSV are read here. A reader of the binary formats is no part of
this library; for a text that is to be read as one of these there is what such a reader finds wrong
with it (`binaryError`). A disk with other files has a reader of its own.
-/

namespace RelQuery

namespace FileTree

/-- The contents of some files, without the empty ones. -/
def contents (trees : List FileTree) : List Text :=
  trees.filterMap fun tree =>
    match tree with
    | .file [] => none
    | .file content => some content
    | .directory _ => none

/-- The extension of the file that the parts of a path lead to, and nothing if there is none. -/
def extensionOf (parts : List Text) : Text :=
  ((Path.splitExtension ((parts.getLast?).getD [])).2).getD []

/-- The contents of the files in a directory. They must have one extension, unless the directory's
path looks like a pattern. -/
def contentsIn (path : Text) (tree : FileTree) : Except FileError (List Text) :=
  let files := tree.filesByDepth.filter fun file => !file.2.isEmpty
  match files.map fun file => extensionOf file.1 with
  | [] => .error .nothingFound
  | first :: others =>
      if Glob.isPattern path ∨ others.all (· = first) then .ok (files.map Prod.snd)
      else .error .mixedExtensions

/-- The contents of the files that a pattern finds. -/
def contentsMatching (look : Look) (path : Text) : Except FileError (List Text) :=
  match (Glob.search? look path).map contents with
  | none => .error .badPattern
  | some [] => .error .nothingFound
  | some contents => .ok contents

/-- The contents of the files that a path stands for. A directory counts first, whatever its name. -/
def sources (look : Look) (path : Text) : Except FileError (List Text) :=
  match look path with
  | some (.directory entries) => contentsIn path (.directory entries)
  | found =>
      if Glob.isPattern path then contentsMatching look path
      else
        match found with
        | some (.file content) => .ok [content]
        | _ => .error .notFound

/-- The mark that ends the files of the format `ipc`. -/
def endMark : Text := "ARROW1".toList

/-- The number that four bytes stand for, the lowest one first. -/
def littleEndian (bytes : List UInt8) : Nat :=
  bytes.foldr (fun byte value => byte.toNat + 256 * value) 0

/-- What is wrong with a text for a reader of a binary format. In the format `ipc` the mark at the
end follows the length of a footer, a number of 32 bits with a sign; `parquet` is checked as a
whole. -/
def binaryError (format : Format) (content : Text) : FileError :=
  let bytes := Utf8.encode content
  let footer := littleEndian ((bytes.drop (bytes.length - 10)).take 4)
  if format = .parquet then .unreadable
  else if bytes.length < 10 then .truncated
  else if bytes.drop (bytes.length - 6) ≠ Utf8.encode endMark then .unreadable
  else if footer < 0x80000000 ∧ bytes.length < 10 + footer then .truncated
  else .unreadable

/-- Reads the table that the contents of files in a format make together. -/
def readTable (contents : List Text) : Format → Except FileError Frame
  | .csv => (Csv.read contents).mapError .csv
  | format => .error (binaryError format (contents.headD []))

/-- What is at a path, as far as one can tell without reading a file. Directories of a tree can be
listed, with all their entries. -/
def place : FileTree → Place Char
  | file _ => .file
  | directory entries => .directory (some (entries.map fun entry => some entry.1))

end FileTree

/-- The disk on which paths lead to what they lead to in a tree. -/
def Disk.ofLook (look : FileTree.Look) : Disk Char where
  find? path := (look path).map FileTree.place
  read format path := do FileTree.readTable (← FileTree.sources look path) format

/-- Where paths lead says all about a disk of files in text. -/
instance : Coe FileTree.Look (Disk Char) where
  coe := Disk.ofLook

end RelQuery
