import RelQuery.Command

/-!
# The program

Looks up the paths among the arguments, hands everything to `Command`, and prints the result: what
the command shows on the standard output, its log and its failure on the standard error.
-/

namespace RelQuery.Main

/-- The text of a file; none of a file that is not UTF-8. -/
def contentOf (path : String) : IO Text := do
  match String.fromUTF8? (← IO.FS.readBinFile path) with
  | some text => return text.toList
  | none => return []

/-- The file or directory at a path, with all that is in it. -/
partial def treeAt (path : Text) : IO FileTree := do
  let place ← IO.FS.realPath (String.ofList path)
  if ← place.isDir then
    let mut entries : List (Text × FileTree) := []
    for entry in ← place.readDir do
      let name := entry.fileName.toList
      entries := (name, ← treeAt (Path.within path name)) :: entries
    return .directory entries
  else
    return .file (← contentOf (String.ofList path))

/-- The directory where a pattern is searched from. Nothing for one that leads nowhere. -/
def lookBelow (path : Text) : IO (List (Text × FileTree)) := do
  let (start, _) := Glob.base path
  try
    return [(start, ← treeAt start)]
  catch _ => return []

/-- The file at a path. Nothing for a directory, or for a path that leads nowhere. -/
def lookUpFile (path : Text) : IO (List (Text × FileTree)) := do
  try
    let place ← IO.FS.realPath (String.ofList path)
    if ← place.isDir then return []
    else return [(path, .file (← contentOf (String.ofList path)))]
  catch _ => return []

/-- The file or directory at a path, and the tables right inside a directory, each under its own
path. A directory that cannot be listed is one without entries. -/
def lookUp (path : Text) : IO (List (Text × FileTree)) := do
  try
    let place ← IO.FS.realPath (String.ofList path)
    if ← place.isDir then
      let names ← try pure ((← place.readDir).toList.map fun entry => entry.fileName.toList)
        catch _ => pure []
      let mut found : List (Text × FileTree) :=
        [(path, .directory (names.map fun name => (name, .file [])))]
      for name in names do
        if Path.isTable name then
          found := found ++ (← lookUpFile (Path.within path name))
      return found
    else lookUpFile path
  catch _ => return []

/-- Prints a log line with its level in brackets. -/
def printLine (line : LogLine) : IO Unit :=
  IO.eprintln (String.ofList ('[' :: line.level.word ++ [']', ' '] ++ line.text))

/-- Carries out a request and answers with the exit code. -/
def perform (request : Command.Request) : IO UInt32 := do
  let mut found : List (Text × FileTree) := []
  for path in request.paths do
    found := found ++ (← lookUp path)
  for path in Loader.collectFiles (Disk.ofLook fun path => found.lookup path) request.paths do
    if Glob.isPattern path then
      found := (← lookBelow path) ++ found
  let result := request.run (Disk.ofLook fun path => found.lookup path)
  for line in result.log do
    printLine line
  IO.print (String.ofList result.output)
  match result.failure with
  | none => return 0
  | some failure =>
      IO.eprint (String.ofList failure.toText)
      return 1

end RelQuery.Main

/-- The entry point of the program. -/
def main (arguments : List String) : IO UInt32 := do
  match RelQuery.Command.invocation (arguments.map String.toList) with
  | .help =>
      IO.print RelQuery.Command.helpText
      return 0
  | .misuse =>
      IO.eprintln "error: the arguments are wrong; for more information, try '--help'."
      return 2
  | .run request => RelQuery.Main.perform request
