import RelQuery.Files.Csv.Value
import RelQuery.Files.Path
import RelQuery.Log
import RelQuery.Operator
import RelQuery.Table.Catalog

/-!
# Loading relations from files

Each argument is a file or a directory; a directory stands for the tables right inside it, in the
order of their paths. Of the files that hold a relation of one name the last one that can be read
wins, and the name keeps the place where it was first used. Every file has exactly one outcome, and
the log is made from the outcomes.

What there is to load is on a disk (`Disk`), which also reads the files of each format. Looking
around on it may fail: a path may lead nowhere, a directory may refuse to be listed, and so may one
of its entries.
-/

namespace RelQuery

/-- The formats of tables. -/
inductive Format where
  | parquet
  | csv
  | ipc
  deriving DecidableEq, Repr

/-- The format that goes with an extension. -/
def Format.ofExtension? (extension : Text) : Option Format :=
  if extension = "parquet".toList then some parquet
  else if extension = "csv".toList then some csv
  else if extension = "ipc".toList ∨ extension = "arrow".toList then some ipc
  else none

/-- Why no table can be read from a file. -/
inductive FileError where
  /-- The path leads to no file. -/
  | notFound
  /-- There is no file with content where the path leads to. -/
  | nothingFound
  /-- The path is no proper pattern. -/
  | badPattern
  /-- The files in a directory have different extensions. -/
  | mixedExtensions
  /-- The file is not in its format. -/
  | unreadable
  /-- The file ends before what its format needs. -/
  | truncated
  | csv (error : Csv.CsvError)
  deriving DecidableEq, Repr

/-- The text of an error. -/
def FileError.message : FileError → Text
  | notFound => "No such file or directory".toList
  | nothingFound => "no files with content were found".toList
  | badPattern => "invalid path pattern".toList
  | mixedExtensions => "the files in the directory have different extensions".toList
  | unreadable => "the file is not in the format of its extension".toList
  | truncated => "the file is shorter than its format allows".toList
  | csv .empty => "empty CSV".toList
  | csv .tooManyFields => "found more fields than there are columns".toList
  | csv .badQuotes => "field is not properly escaped".toList
  | csv .badValue => "could not parse a value as the type of its column".toList
  | csv .badLines => "quotes and line ends do not fit together".toList
  | csv .differentColumns => "the files have different columns".toList

/-- Why a file cannot be loaded. -/
inductive LoadError where
  /-- There is no format for the extension. -/
  | unsupportedExtension (extension : Text)
  | noExtension
  /-- There is a format, but no table can be read. -/
  | file (error : FileError)
  deriving DecidableEq, Repr

/-- The text of an error. -/
def LoadError.message : LoadError → Text
  | unsupportedExtension extension => "unsupported file extension: ".toList ++ extension
  | noExtension => "file has no extension".toList
  | file error => error.message

namespace LoadError

/-- The path leads to no file. -/
@[match_pattern] abbrev notFound : LoadError := file .notFound

/-- There is no file with content. -/
@[match_pattern] abbrev nothingFound : LoadError := file .nothingFound

/-- The path is no proper pattern. -/
@[match_pattern] abbrev badPattern : LoadError := file .badPattern

/-- The files have different extensions. -/
@[match_pattern] abbrev mixedExtensions : LoadError := file .mixedExtensions

/-- The file is not in its format. -/
@[match_pattern] abbrev unreadable : LoadError := file .unreadable

/-- The file is too short. -/
@[match_pattern] abbrev truncated : LoadError := file .truncated

/-- The file is no proper CSV. -/
@[match_pattern] abbrev csv (error : Csv.CsvError) : LoadError := file (.csv error)

end LoadError

/-- What is at a path. -/
inductive Place (α : Type) where
  | file
  /-- A directory and what listing it gives: nothing if it cannot be listed, and otherwise the names
  of its entries, with nothing in the place of an entry that cannot be read. -/
  | directory (listing : Option (List (Option (List α))))
  deriving DecidableEq, Repr

/-- Where files are: what paths lead to, and how the files of a format are read. -/
structure Disk (α : Type) where
  /-- What a path leads to. It may lead nowhere even if a directory lists it. -/
  find? : List α → Option (Place α)
  read : Format → List α → Except FileError Frame

/-- Whether a path leads to a file. -/
def Disk.isFile {α : Type} (disk : Disk α) (path : List α) : Bool :=
  match disk.find? path with
  | some .file => true
  | _ => false

/-- The names of the entries that can be read; none if the directory cannot be listed. -/
def entryNames {α : Type} (listing : Option (List (Option (List α)))) : List (List α) :=
  (listing.getD []).filterMap id

namespace Loader

variable {α : Type} [DecidableEq α] [PathChar α]

/-- Loads the table at a path. The extension of the path decides on the format. -/
def loadFile (disk : Disk α) (path : List α) : Except LoadError Frame :=
  match Path.extensionText? path with
  | none => .error .noExtension
  | some extension =>
      match Format.ofExtension? extension with
      | some format => (disk.read format path).mapError .file
      | none => .error (.unsupportedExtension extension)

/-- The paths of the tables right inside a directory, in their order. Entries that do not show what
they are are passed over like those that are no tables. -/
def tablesIn (disk : Disk α) (directory : List α) (listing : Option (List (Option (List α)))) :
    List (List α) :=
  let paths := (entryNames listing).map (Path.within directory)
  let tables := paths.filter fun path => disk.isFile path && Path.isTable path
  tables.mergeSort fun left right => (Path.compare left right).isLE

/-- The files that one argument stands for; nothing if it is neither a directory nor a table. -/
def filesAt (disk : Disk α) (path : List α) : Option (List (List α)) :=
  match disk.find? path with
  | some (.directory listing) => some (tablesIn disk path listing)
  | some .file => if Path.isTable path then some [path] else none
  | none => none

/-- The files that the arguments stand for, in their order. -/
def collectFiles (disk : Disk α) (paths : List (List α)) : List (List α) :=
  paths.flatMap fun path => (filesAt disk path).getD []

/-- The line about an argument that is skipped. -/
def skippedLine (path : List α) : LogLine :=
  ⟨.warn, "Skipping ".toList ++ PathChar.shown path ++
    ": not a supported file or directory".toList⟩

/-- The lines about the arguments that are skipped. -/
def skippedLog (disk : Disk α) (paths : List (List α)) : List LogLine :=
  (paths.filter fun path => (filesAt disk path).isNone).map skippedLine

/-- What became of a file, with its path as it is shown. -/
inductive Outcome where
  /-- The file's name is no relation name. -/
  | invalidName (path name : Text)
  /-- A relation was loaded; `again` if there was one of that name. -/
  | loaded (path name : Text) (rows : Nat) (again : Bool)
  | failed (path : Text) (error : LoadError)
  deriving DecidableEq, Repr

/-- The log lines about an outcome. -/
def Outcome.lines : Outcome → List LogLine
  | invalidName path name =>
      [⟨.warn, "Skipping ".toList ++ path ++ ": '".toList ++ name ++
        "' is not a valid relation name".toList⟩]
  | loaded path name rows again =>
      ⟨.info, "Loaded relation ".toList ++ name ++ " (".toList ++ Text.ofNat rows ++
        " rows) from ".toList ++ path⟩ ::
      if again then
        [⟨.warn, "Relation ".toList ++ name ++ " loaded twice, keeping ".toList ++ path⟩]
      else []
  | failed path error =>
      [⟨.warn, "Failed to load ".toList ++ path ++ ": ".toList ++ error.message⟩]

/-- Loads one file into a catalog. -/
def loadInto (load : List α → Except LoadError Frame) (catalog : Catalog) (path : List α) :
    Catalog × Outcome :=
  let name := Path.relationName path
  let shown := PathChar.shown path
  if isRelationName name then
    match load path with
    | .ok frame =>
        (catalog.insert name frame, .loaded shown name frame.height (catalog.contains name))
    | .error e => (catalog, .failed shown e)
  else (catalog, .invalidName shown name)

/-- Loads files into a catalog, one after the other. -/
def loadAll (load : List α → Except LoadError Frame) :
    Catalog → List (List α) → Catalog × List Outcome
  | catalog, [] => (catalog, [])
  | catalog, path :: paths =>
      let (catalog, outcome) := loadInto load catalog path
      let (catalog, outcomes) := loadAll load catalog paths
      (catalog, outcome :: outcomes)

/-- Loads all tables that the arguments stand for. -/
def loadCatalog (disk : Disk α) (paths : List (List α)) : Catalog × List Outcome :=
  loadAll (loadFile disk) .empty (collectFiles disk paths)

/-- The log of loading: the arguments that are skipped, and then the outcomes of the files. -/
def log (disk : Disk α) (paths : List (List α)) (outcomes : List Outcome) : List LogLine :=
  skippedLog disk paths ++ outcomes.flatMap Outcome.lines

end Loader

end RelQuery
