import DocStore.Command.Help
import DocStore.Command.Reply
import DocStore.DataDirectory.Saving

/-!
Contract: running a command line on a disk.

The log level and the settings are taken from the environment and the options,
then the store is opened, the task is answered, and a changed store is saved
into the directory it was opened from. Whatever fails ends the run: what was
printed before stays printed, and the report is the last notice.

Owns: `Outcome` and `Invocation.perform`.
-/

namespace DocStore.Command

/-- What running a command line leaves behind. -/
structure Outcome where
  code : Nat
  output : String
  notices : List String
  session : Session

namespace Outcome

/-- An outcome without any work on the disk. -/
def ofText (disk : Disk) (code : Nat) (output : String) : Outcome :=
  ⟨code, output, [], Session.start disk⟩

/-- A run that has come to its end. -/
def success (session : Session) (output notices : List String) (remark : Option String) :
    Outcome :=
  ⟨0, ended output, notices ++ remark.toList, session⟩

/-- A run that has failed. -/
def failure (session : Session) (output notices : List String) (report : Report) : Outcome :=
  ⟨1, ended output, notices ++ [report.text], session⟩

end Outcome

/-! ## Options -/

/-- The log level: the option's, else the environment's, else the standard one. -/
def Options.logLevel (environment : String → Option String) (options : Options) :
    Except Report LogLevel :=
  match options.level with
  | none => .ok (LogLevel.standard.afterVariable (environment LogLevel.variableName))
  | some name =>
      match LogLevel.ofName? name with
      | some level => .ok level
      | none => .error ⟨"Unknown log level: " ++ name, []⟩

/-- The settings of the environment; indexes can also be switched off by an option. -/
def Options.settings (environment : String → Option String) (options : Options) : Settings :=
  let settings := Settings.ofEnvironment environment
  if options.scansOnly then { settings with usesIndexes := false } else settings

/-! ## Runs -/

variable [NumeralReader]

/-- Saves a store into the directory of the options. -/
def saveStore (options : Options) (store : Store) (disk : Disk) :
    Except Report Unit × Session :=
  let saving := DataDirectory.save store (Location.ofText options.directory)
  let (outcome, session) := saving.runOn disk
  (Report.within ("Failed to write data directory: " ++ options.directory) outcome, session)

/-- Finishes a task that has been answered. -/
def finish (options : Options) (level : LogLevel) (disk : Disk) (notices : List String)
    (reply : Reply) : Outcome :=
  match reply.saved with
  | none => .success (Session.start disk) reply.output notices reply.remark
  | some store =>
      let (outcome, session) := saveStore options store disk
      let notices := notices ++ LogLine.written level session.announced
      match outcome with
      | .ok () => .success session reply.output notices reply.remark
      | .error report => .failure session reply.output notices report

/-- Runs a task on an opened store. -/
def runTask (environment : String → Option String) (fresh : Nat → String) (options : Options)
    (level : LogLevel) (disk : Disk) (notices : List String) (store : Store) (task : Task) :
    Outcome :=
  let settings := options.settings environment
  let notices := notices ++ LogLine.written level (task.lines settings disk store)
  match task.reply settings fresh disk store with
  | .ok reply => finish options level disk notices reply
  | .error report => .failure (Session.start disk) [] notices report

/-- The store in the directory of the options. -/
def openStore (options : Options) (disk : Disk) : Except Report Store :=
  Report.within ("Failed to open data directory: " ++ options.directory)
    (DataDirectory.load disk (Location.ofText options.directory))

/-- Runs a task. -/
def runOptions (environment : String → Option String) (fresh : Nat → String) (disk : Disk)
    (options : Options) (task : Task) : Outcome :=
  match options.logLevel environment with
  | .error report => .failure (Session.start disk) [] [] report
  | .ok level =>
      let notices :=
        LogLine.written level (DataDirectory.loadLines disk (Location.ofText options.directory))
      match openStore options disk with
      | .error report => .failure (Session.start disk) [] notices report
      | .ok store => runTask environment fresh options level disk notices store task

/-- Does what a command line asks for; `fresh` supplies keys for documents without one. -/
def Invocation.perform (environment : String → Option String) (fresh : Nat → String)
    (disk : Disk) : Invocation → Outcome
  | run options task => runOptions environment fresh disk options task
  | help topic => .ofText disk 0 (helpText topic)
  | version => .ofText disk 0 versionText
  | rejected => .ofText disk 2 ""

end DocStore.Command
