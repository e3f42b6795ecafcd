import DocStore.Command.Run
import DocStore.Store.FreshKey

/-!
Contract: the program.

What a command line may read is taken from the file system into a disk, the
command line is performed on it, and the actions that it performed are repeated
on the file system. Everything is decided in between.

Owns: input and output.
-/

namespace DocStore.Main

open DocStore

/-- Takes a file or a directory at a path into a disk, with directories down to a depth. -/
def scan (depth : Nat) (disk : Disk) (path : String) : IO Disk := do
  let entry : IO.FS.DirEntry := ⟨⟨path⟩, ""⟩
  let location := Location.ofText path
  unless ← entry.root.pathExists do return disk
  if ← entry.root.isDir then
    let (_, session) := (Work.createDirectories location).runOn disk
    match depth with
    | 0 => return session.disk
    | depth + 1 =>
        let entries ← entry.root.readDir
        entries.foldlM (fun disk entry => scan depth disk (location.child entry.fileName).text)
          session.disk
  else
    let content ← IO.FS.readBinFile entry.root
    let above := (Work.createDirectories ⟨location.pieces.dropLast⟩).runOn disk
    let file : Work Unit := Work.perform (.write location content)
    return (file.runOn above.2.disk).2.disk

/-- The part of the file system that a command line may read. -/
def load : Command.Invocation → IO Disk
  | .run options task => do
      let disk ← scan 2 Disk.empty options.directory
      match task with
      | .importFile file _ | .filter file _ | .aggregate file => scan 0 disk file
      | _ => return disk
  | _ => return Disk.empty

/-- Repeats an action on the file system; directories that were not taken in may be there. -/
def repeatAction : Disk.Action → IO Unit
  | .createDirectory location => IO.FS.createDirAll location.text
  | .write location content => IO.FS.writeBinFile location.text content
  | .rename source target => IO.FS.rename source.text target.text
  | .remove location => IO.FS.removeFile location.text

/-- A random number to make fresh keys from. -/
def randomStart : IO Nat := do
  let bytes ← IO.getRandomBytes 16
  return bytes.toList.foldl (fun number byte => number * 256 + byte.toNat) 0

end DocStore.Main

def main (words : List String) : IO UInt32 := do
  let invocation := DocStore.Command.Invocation.ofWords words
  let disk ← DocStore.Main.load invocation
  let start ← DocStore.Main.randomStart
  let known ← [DocStore.LogLevel.variableName, DocStore.Settings.indexVariable,
    DocStore.Settings.markVariable].mapM fun name => do return (name, ← IO.getEnv name)
  let environment (name : String) : Option String := (known.lookup name).join
  let outcome := invocation.perform environment (DocStore.FreshKey.supply start) disk
  outcome.session.performed.forM DocStore.Main.repeatAction
  IO.print outcome.output
  outcome.notices.forM fun notice => IO.eprintln notice
  return outcome.code.toUInt32
