import DocStore.Disk.Basic
import DocStore.Log.Line

/-!
Contract: working on a disk step by step.

A session is a disk together with the actions performed on it so far and the
log lines announced on the way. Work in a session stops at its first error; the
disk keeps what was done until then.

Owns: `Session`, the monad of work in it, and its primitive steps.
-/

namespace DocStore

/-- A disk and what has happened on it. -/
structure Session where
  disk : Disk
  performed : List Disk.Action
  announced : List LogLine

namespace Session

/-- A session that begins on a disk. -/
def start (disk : Disk) : Session := ⟨disk, [], []⟩

end Session

/-- Work in a session: an error does not undo what was done before it. -/
abbrev Work := ExceptT Error (StateM Session)

namespace Work

/-- The disk as it is now. -/
def disk : Work Disk := do
  let session ← get
  return session.disk

/-- Performs an action. -/
def perform (action : Disk.Action) : Work Unit := do
  let session ← get
  match session.disk.perform action with
  | .ok disk => set { session with disk := disk, performed := session.performed ++ [action] }
  | .error fault => throw (.disk fault)

/-- Announces a log line. -/
def announce (line : LogLine) : Work Unit :=
  modify fun session => { session with announced := session.announced ++ [line] }

/-- Reads something off the disk. -/
def observe {Result : Type} (read : Disk → Except DiskFault Result) : Work Result := do
  match read (← disk) with
  | .ok result => return result
  | .error fault => throw (.disk fault)

/-- Creates a directory, making room for it first if the one above is missing. An existing
directory is fine. -/
def createWithin (makeRoom : Work Unit) (location : Location) : Work Unit := do
  match (← disk).createDirectory location with
  | .ok _ => perform (.createDirectory location)
  | .error .notFound => do
      makeRoom
      unless (← disk).isDirectory location do
        perform (.createDirectory location)
  | .error fault =>
      unless (← disk).isDirectory location do
        throw (.disk fault)

/-- Creates a directory with the directories above it, given its pieces from the last one on. -/
def createBackwards : List String → Work Unit
  | [] => return
  | piece :: above =>
      if Location.isIdle piece then createBackwards above
      else createWithin (createBackwards above) ⟨(piece :: above).reverse⟩

/-- Creates a directory with the directories above it. -/
def createDirectories (location : Location) : Work Unit :=
  let pieces := location.pieces.reverse
  if pieces.all Location.isIdle then return
  else createWithin (createBackwards (pieces.dropWhile Location.isIdle).tail) location

/-- Runs work on a disk. -/
def runOn {Result : Type} (work : Work Result) (disk : Disk) : Except Error Result × Session :=
  work.run.run (Session.start disk)

end Work

end DocStore
