import DocStore.Error
import DocStore.Text.Split

/-!
Contract: how a failed command is reported.

A report says what was being done and lists the causes below it, the nearest
first. A single cause is indented, several are numbered from zero; further lines
of a cause stand under its first.

Owns: `Report` and its written form.
-/

namespace DocStore

/-- What was being done when a command failed, and why it failed. -/
structure Report where
  context : String
  causes : List String
deriving DecidableEq, Repr

namespace Report

/-- The report of an error; below a refusal of the disk stands the system's own text. -/
def ofError (context : String) (error : Error) : Report :=
  match error with
  | .disk fault => ⟨context, [error.message, fault.message]⟩
  | _ => ⟨context, [error.message]⟩

/-- A report in place of an error. -/
def within {Result : Type} (context : String) (outcome : Except Error Result) :
    Except Report Result :=
  outcome.mapError (ofError context)

/-- A cause behind a label, further lines behind blanks. -/
def labelled (label : String) (blanks : String) (cause : String) : String :=
  label ++ ("\n" ++ blanks).intercalate (Text.splitAt '\n' cause)

/-- The label of a numbered cause: the number ends at the fifth place. -/
def numberLabel (number : Nat) : String :=
  let digits := toString number
  String.ofList (List.replicate (5 - digits.length) ' ') ++ digits ++ ": "

/-- Numbered causes, each on a line of its own. -/
def numbered (number : Nat) : List String → String
  | [] => ""
  | cause :: rest =>
      "\n" ++ labelled (numberLabel number) "       " cause ++ numbered (number + 1) rest

/-- The causes in writing. -/
def causesText : List String → String
  | [] => ""
  | [cause] => "\n\nCaused by:\n" ++ labelled "    " "    " cause
  | causes => "\n\nCaused by:" ++ numbered 0 causes

/-- The report in writing. -/
def text (report : Report) : String :=
  "Error: " ++ report.context ++ causesText report.causes

end Report

end DocStore
