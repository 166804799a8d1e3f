import RelQuery.Text

/-!
# Log lines

A log is a list of lines that a computation returns beside its result. Whether they are shown is
for its caller to decide.
-/

namespace RelQuery

/-- How much a log line matters. -/
inductive Level where
  | trace
  | debug
  | info
  | warn
  deriving DecidableEq, Repr

/-- The name of a level in front of a line. -/
def Level.word : Level → Text
  | trace => "TRACE".toList
  | debug => "DEBUG".toList
  | info => "INFO".toList
  | warn => "WARN".toList

/-- One line of a log. -/
structure LogLine where
  level : Level
  text : Text
  deriving DecidableEq, Repr

/-- The line as it is shown, behind its level. -/
def LogLine.toText (line : LogLine) : Text :=
  line.level.word ++ ' ' :: line.text

end RelQuery
