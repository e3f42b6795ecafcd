import DocStore.Text.Split

/-!
Contract: telling options from operands.

A form says which options take a value, which are mere switches, which operands
there may be and which words begin a command. Reading a list of words by a form
stops at such a command. A value follows its option or an equals sign in the
same word; it does not begin with a dash unless it is a single one. Every option
is given once, and no path is empty. After two dashes everything is an operand.

A value in a word of its own is looked at only when the next option or the end
is reached. A command comes before that, so its help is given even if the value
just before it is at fault.

Owns: `Form`, `Reading` and `Form.read`.
-/

namespace DocStore.Command

/-- What a value or an operand holds. -/
inductive Content where
  | text
  | path
deriving DecidableEq, Repr

/-- Whether a word can hold something: a path is not empty. -/
def Content.allows : Content → String → Bool
  | text, _ => true
  | path, word => word != ""

/-- What words are allowed. -/
structure Form where
  valued : List (String × Content)
  switches : List String
  operands : List Content
  commands : List String
  showsVersion : Bool

/-- What has been read by a form. -/
structure Found where
  values : List (String × String)
  switches : List String
  operands : List String
  command : Option (String × List String)

/-- The outcome of reading words by a form. Before a command a value may be at fault, which is
told together with the command and the words behind it. -/
inductive Reading where
  | found (found : Found)
  | faulty (command : String) (words : List String)
  | help
  | version
  | rejected

/-- What a word looks like. -/
inductive Word where
  | delimiter
  | long (name : String) (attached : Option String)
  | short (letters : List Char)
  | plain
deriving DecidableEq, Repr

/-- Splits the name of a long option from a value after an equals sign. -/
def splitLong (text : List Char) : Word :=
  let name := text.takeWhile (· != '=')
  match text.dropWhile (· != '=') with
  | [] => .long (String.ofList name) none
  | _ :: value => .long (String.ofList name) (some (String.ofList value))

def Word.ofText (text : String) : Word :=
  match text.toList with
  | ['-', '-'] => .delimiter
  | '-' :: '-' :: rest => splitLong rest
  | ['-'] => .plain
  | '-' :: letters => .short letters
  | _ => .plain

namespace Found

def empty : Found := ⟨[], [], [], none⟩

def value? (found : Found) (name : String) : Option String := found.values.lookup name

def hasSwitch (found : Found) (name : String) : Bool := found.switches.contains name

/-- Adds the value of an option that has none yet. -/
def addValue (form : Form) (found : Found) (name value : String) : Option Found := do
  let content ← form.valued.lookup name
  if (found.value? name).isSome || !content.allows value then none
  else some { found with values := found.values ++ [(name, value)] }

/-- Adds a switch that is not set yet. -/
def addSwitch (found : Found) (name : String) : Option Found :=
  if found.hasSwitch name then none
  else some { found with switches := found.switches ++ [name] }

/-- Adds an operand if there is room. -/
def addOperand (form : Form) (found : Found) (operand : String) : Option Found := do
  let content ← form.operands[found.operands.length]?
  if content.allows operand then some { found with operands := found.operands ++ [operand] }
  else none

end Found

namespace Form

/-- Reads operands only. -/
def readOperands (form : Form) (found : Found) : List String → Reading
  | [] => .found found
  | operand :: rest =>
      match found.addOperand form operand with
      | some found => readOperands form found rest
      | none => .rejected

def takesValue (form : Form) (name : String) : Bool := (form.valued.lookup name).isSome

/-- What follows a value at fault: only a command can still be asked for its help. -/
def readFaulty (form : Form) : List String → Reading
  | [] => .rejected
  | text :: rest => if form.commands.contains text then .faulty text rest else .rejected

/-- Reads words up to a command or their end. -/
def readFrom (form : Form) (found : Found) : List String → Reading
  | [] => .found found
  | text :: rest =>
      if form.commands.contains text then .found { found with command := some (text, rest) }
      else
        match Word.ofText text with
        | .delimiter => readOperands form found rest
        | .plain =>
            match found.addOperand form text with
            | some found => readFrom form found rest
            | none => .rejected
        | .short letters =>
            match letters.head? with
            | some 'h' => .help
            | some 'V' => if form.showsVersion then .version else .rejected
            | _ => .rejected
        | .long name (some value) =>
            match found.addValue form name value with
            | some found => readFrom form found rest
            | none => .rejected
        | .long name none =>
            if form.takesValue name then
              match rest with
              | [] => .rejected
              | value :: others =>
                  if Word.ofText value = .plain then
                    match found.addValue form name value with
                    | some found => readFrom form found others
                    | none => form.readFaulty others
                  else .rejected
            else if form.switches.contains name then
              match found.addSwitch name with
              | some found => readFrom form found rest
              | none => .rejected
            else if name = "help" then .help
            else if name = "version" then (if form.showsVersion then .version else .rejected)
            else .rejected

/-- Reads words by a form. -/
def read (form : Form) (words : List String) : Reading := form.readFrom Found.empty words

end Form

end DocStore.Command
