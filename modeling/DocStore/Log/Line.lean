import DocStore.Log.Level

/-!
Contract: log lines.

A line has a level, the part of the program that it comes from, and a message.
Lines are made as data; whoever writes them drops the ones beyond the level
that is set.

Owns: `LogLine`, the names of the parts, and the written form.
-/

namespace DocStore

/-- The part of the program that a line comes from. -/
inductive LogTopic where
  | pipeline
  | filter
  | store
  | files
deriving DecidableEq, Repr

/-- The written name of a part. -/
def LogTopic.name : LogTopic → String
  | pipeline => "flatbase_core::engine"
  | filter => "flatbase_core::query::filter"
  | store => "flatbase_core::store::memory"
  | files => "flatbase_core::store::flat_file"

/-- One line of a log. -/
structure LogLine where
  level : LogLevel
  topic : LogTopic
  message : String
deriving DecidableEq, Repr

namespace LogLine

/-- The written form of a line. -/
def text (line : LogLine) : String :=
  "[" ++ line.level.name ++ "] " ++ line.topic.name ++ ": " ++ line.message

/-- The lines that are written when a level is set, in writing. -/
def written (threshold : LogLevel) (lines : List LogLine) : List String :=
  (lines.filter fun line => line.level.isWritten threshold).map text

end LogLine

end DocStore
