import DocStore.Command.Form

/-!
Contract: the command line.

General options come first, then a command with its own options and operands.
Whatever does not fit is rejected as a whole, but the help of a command is given
even if the general option just before it is at fault.

Owns: the commands, and reading them from the words of a command line.
-/

namespace DocStore.Command

/-- The options that every command has. -/
structure Options where
  directory : String
  level : Option String
  scansOnly : Bool
deriving DecidableEq, Repr

/-- The directory of data files if none is named. -/
def standardDirectory : String := "flatbase-data"

/-- A collection by name. -/
structure Target where
  database : String
  collection : String
deriving DecidableEq, Repr

/-- The name of a collection in messages. -/
def Target.name (target : Target) : String := target.database ++ "." ++ target.collection

/-- What to do. -/
inductive Task where
  | importFile (file : String) (target : Target)
  | createIndex (field : String) (target : Target)
  | dropIndex (field : String) (target : Target)
  | filter (file : String) (target : Target)
  | aggregate (file : String)
  | count (target : Target)
  | collections (database : Option String)
deriving DecidableEq, Repr

/-- What a command line asks for. -/
inductive Invocation where
  | run (options : Options) (task : Task)
  | help (topic : Option String)
  | version
  | rejected
deriving DecidableEq, Repr

/-! ## Tasks -/

/-- The words that begin a task. -/
def taskNames : List String := ["import", "index", "filter", "aggregate", "count", "collections"]

/-- The word that asks for help. -/
def helpName : String := "help"

def taskForm (name : String) : Form :=
  let targeted := [("db", Content.text), ("collection", .text)]
  match name with
  | "import" | "filter" => ⟨targeted, [], [.path], [], false⟩
  | "index" => ⟨targeted, ["drop"], [.text], [], false⟩
  | "aggregate" => ⟨[], [], [.path], [], false⟩
  | "count" => ⟨targeted, [], [], [], false⟩
  | _ => ⟨[("db", .text)], [], [], [], false⟩

/-- The collection that options name. -/
def Found.target? (found : Found) : Option Target := do
  let database ← found.value? "db"
  let collection ← found.value? "collection"
  some ⟨database, collection⟩

/-- The only operand. -/
def Found.operand? (found : Found) : Option String := found.operands.head?

/-- The task with a name, as far as it is complete. -/
def Task.ofFound? (name : String) (found : Found) : Option Task := do
  match name with
  | "import" => some (importFile (← found.operand?) (← found.target?))
  | "index" =>
      let field ← found.operand?
      let target ← found.target?
      some (if found.hasSwitch "drop" then dropIndex field target else createIndex field target)
  | "filter" => some (filter (← found.operand?) (← found.target?))
  | "aggregate" => some (aggregate (← found.operand?))
  | "count" => some (count (← found.target?))
  | _ => some (collections (found.value? "db"))

/-! ## Command lines -/

def generalForm : Form :=
  ⟨[("data", .path), ("log-level", .text)], ["no-index"], [], helpName :: taskNames, true⟩

/-- The options that every command has. -/
def Options.ofFound (found : Found) : Options :=
  ⟨(found.value? "data").getD standardDirectory, found.value? "log-level",
    found.hasSwitch "no-index"⟩

/-- What a request for help is about. -/
def readHelp : List String → Invocation
  | [] => .help none
  | [topic] => if (helpName :: taskNames).contains topic then .help (some topic) else .rejected
  | _ => .rejected

/-- Reads a task behind the general options; without sound options there is only its help. -/
def readTask (options : Option Options) (name : String) (words : List String) : Invocation :=
  if name = helpName then readHelp words
  else
    match (taskForm name).read words with
    | .help => .help (some name)
    | .version | .faulty _ _ | .rejected => .rejected
    | .found found =>
        match options, Task.ofFound? name found with
        | some options, some task => .run options task
        | _, _ => .rejected

/-- Reads a command line. -/
def Invocation.ofWords (words : List String) : Invocation :=
  match generalForm.read words with
  | .help => .help none
  | .version => .version
  | .rejected => .rejected
  | .faulty name rest => readTask none name rest
  | .found found =>
      match found.command with
      | some (name, rest) => readTask (some (Options.ofFound found)) name rest
      | none => .rejected

end DocStore.Command
