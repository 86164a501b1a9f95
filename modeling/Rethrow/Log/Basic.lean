import Rethrow.Text.Lines

/-!
# Log lines

A run tells what it does in lines of five levels. Each line has a topic, the part of the
program that speaks, and readers choose by level and topic what they see.
-/

namespace Rethrow.Log

/-- How much a line matters. -/
inductive Level where
  | error
  | warn
  | info
  | debug
  | trace
  deriving DecidableEq, Repr

namespace Level

/-- The rank of a level, one for the gravest. -/
def rank : Level → Nat
  | .error => 1
  | .warn => 2
  | .info => 3
  | .debug => 4
  | .trace => 5

/-- A level as a line shows it, padded to one width. -/
def label : Level → Text
  | .error => "ERROR".toList
  | .warn => "WARN ".toList
  | .info => "INFO ".toList
  | .debug => "DEBUG".toList
  | .trace => "TRACE".toList

end Level

/-- Which part of the program speaks. -/
inductive Topic where
  | command
  | settings
  | source
  | reading
  | wrapper
  | folder
  | batch
  deriving DecidableEq, Repr

/-- A topic as a line shows it. -/
def Topic.label : Topic → Text
  | .command => "cew".toList
  | .settings => "cew::config".toList
  | .source => "cew::source".toList
  | .reading => "cew::parser".toList
  | .wrapper => "cew::transformations".toList
  | .folder => "cew::sink".toList
  | .batch => "cew::orchestrator".toList

/-- One line of a log. -/
structure Line where
  level : Level
  topic : Topic
  message : Text
  deriving DecidableEq, Repr

/-- The blanks in front of the further lines of a message. -/
def continuation : Text := List.replicate 4 ' '

/-- A line as it is printed; a message of several lines is indented from the second on. -/
def Line.render (line : Line) : Text :=
  '[' :: line.level.label ++ ' ' :: line.topic.label ++ "] ".toList ++
    Text.joinWith ('\n' :: continuation) (Text.splitAtChar '\n' line.message)

end Rethrow.Log
