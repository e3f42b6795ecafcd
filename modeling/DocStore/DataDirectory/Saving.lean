import DocStore.Disk.Session
import DocStore.DataDirectory.Names
import DocStore.Store.Basic

/-!
Contract: writing a store to a disk.

Every collection is written to its two files; the file of indexed fields is
there only if there are any. A file is written in full beside its place and
then renamed into it. Files in a database's directory that are named for a
collection which the database does not have are removed. Directories are never
removed.

Owns: `DataDirectory.save`.
-/

namespace DocStore.DataDirectory

/-- The text of a collection's documents, in key order. -/
def documentsText (collection : Collection) : String :=
  (Json.array (collection.documents.values.map Document.toJson)).pretty

/-- The text of a collection's indexed fields. -/
def indexesText (collection : Collection) : String :=
  (Json.array (collection.indexes.keys.map Json.string)).pretty

/-- Writes a file beside its place and renames it into place. -/
def writeFile (directory : Location) (name text : String) : Work Unit := do
  let draft := directory.child (name ++ draftEnding)
  Work.perform (.write draft text.toUTF8)
  Work.perform (.rename draft (directory.child name))

/-- Writes the files of a collection. -/
def saveCollection (directory : Location) (name : String) (collection : Collection) :
    Work Unit := do
  writeFile directory (documentsFile name) (documentsText collection)
  if collection.indexes.isEmpty then
    let file := directory.child (indexesFile name)
    if (← Work.disk).exists? file then
      Work.perform (.remove file)
  else
    writeFile directory (indexesFile name) (indexesText collection)

/-- Removes a file that is kept for a collection which is not there. -/
def sweepFile (directory : Location) (database : Database) (name : String) : Work Unit :=
  match collectionKept? name with
  | none => return
  | some collection =>
      if database.contains collection then return
      else do
        let file := directory.child name
        Work.announce ⟨.debug, .files, "removing stale file " ++ file.text⟩
        Work.perform (.remove file)

/-- Removes every file that is kept for a collection which is not there. -/
def sweep (directory : Location) (database : Database) : Work Unit := do
  let names ← Work.observe fun disk => disk.list directory
  names.forM (sweepFile directory database)

/-- Writes a database. -/
def saveDatabase (root : Location) (name : String) (database : Database) : Work Unit := do
  let directory := root.child name
  Work.createDirectories directory
  database.toList.forM fun (collection, content) => saveCollection directory collection content
  sweep directory database

/-- Writes a store below a root. -/
def save (store : Store) (root : Location) : Work Unit := do
  Work.createDirectories root
  store.databases.toList.forM fun (name, database) => saveDatabase root name database

end DocStore.DataDirectory
