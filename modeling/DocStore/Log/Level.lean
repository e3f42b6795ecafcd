import DocStore.Text.Blank

/-!
Contract: how much is logged.

Levels run from errors to traces. A level is named in any case and with blanks
around it; warnings have two names. A message is written when its level is not
beyond the level that is set.

Owns: `LogLevel`, its names and its order.
-/

namespace DocStore

/-- How important a message is. -/
inductive LogLevel where
  | error
  | warn
  | info
  | debug
  | trace
deriving DecidableEq, Repr

namespace LogLevel

/-- The variable that sets the level. -/
def variableName : String := "FLATBASE_LOG"

/-- The level that holds if none is set. -/
def standard : LogLevel := warn

def rank : LogLevel → Nat
  | error => 0
  | warn => 1
  | info => 2
  | debug => 3
  | trace => 4

instance : Ord LogLevel where
  compare left right := compare left.rank right.rank

/-- Whether messages of this level are written when `threshold` is set. -/
def isWritten (level threshold : LogLevel) : Bool := decide (level.rank ≤ threshold.rank)

def name : LogLevel → String
  | error => "ERROR"
  | warn => "WARN"
  | info => "INFO"
  | debug => "DEBUG"
  | trace => "TRACE"

/-- The capital letter of a character, where that is an ASCII letter: of the ASCII letters, of
the dotless i and of the long s. -/
def capital (character : Char) : Char :=
  if character = 'ı' then 'I' else if character = 'ſ' then 'S' else character.toUpper

/-- The level with a name. -/
def ofName? (text : String) : Option LogLevel :=
  match String.ofList ((Text.trimmed text.toList).map capital) with
  | "ERROR" => some error
  | "WARN" | "WARNING" => some warn
  | "INFO" => some info
  | "DEBUG" => some debug
  | "TRACE" => some trace
  | _ => none

/-- The level after reading the variable: a known name sets it, anything else leaves it. -/
def afterVariable (current : LogLevel) (setting : Option String) : LogLevel :=
  (setting.bind ofName?).getD current

end LogLevel

end DocStore
