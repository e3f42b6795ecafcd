import DocStore.Disk.Session
import DocStore.Json.Decoding
import DocStore.DataDirectory.Names
import DocStore.Store.Basic

/-!
Contract: reading a store off a disk.

Every directory below the root is a database, every file of documents in it a
collection. Documents without a key are passed over; everything else that is
not as it should be is an error. A root that does not exist is an empty store.

Owns: `DataDirectory.load`, and the log lines that loading gives rise to.
-/

namespace DocStore.DataDirectory

/-! ## Contents -/

variable [NumeralReader]

/-- Adds the documents of a file to a collection; the count is of those passed over. -/
def addEach (collection : Collection) (skipped : Nat) :
    List Json → Except Error (Collection × Nat)
  | [] => .ok (collection, skipped)
  | json :: rest => do
      let document ← Document.ofJson json
      match document.key? with
      | none => addEach collection (skipped + 1) rest
      | some key => do
          let (_, next) ← collection.add key document
          addEach next skipped rest

/-- The documents in the text of a file, and how many were passed over. -/
def documentsOfText (text : String) : Except Error (Collection × Nat) :=
  match Json.parse? text with
  | some (.array items) => addEach Collection.empty 0 items
  | _ => .error .malformedText

/-- The indexed fields in the text of a file. -/
def fieldsOfText (text : String) : Except Error (List String) :=
  match Json.parse? text with
  | some (.array items) =>
      match items.mapM Json.string? with
      | some fields => .ok fields
      | none => .error .malformedText
  | _ => .error .malformedText

/-- Turns a fault of the disk into an error. -/
def onDisk {Result : Type} (outcome : Except DiskFault Result) : Except Error Result :=
  outcome.mapError .disk

/-! ## Files -/

/-- Reads a file of documents. -/
def readDocuments (disk : Disk) (file : Location) : Except Error (Collection × Nat) := do
  let text ← onDisk (disk.readText file)
  documentsOfText text

/-- Builds the indexes that a file names, if the file is there. -/
def readIndexes (disk : Disk) (file : Location) (collection : Collection) :
    Except Error Collection :=
  if disk.exists? file then do
    let text ← onDisk (disk.readText file)
    let fields ← fieldsOfText text
    .ok (fields.foldl Collection.buildIndex collection)
  else .ok collection

/-- Reads one collection of a database by the name of its file of documents. -/
def readCollection (disk : Disk) (directory : Location) (name : String) :
    Except Error Collection := do
  let (collection, _) ← readDocuments disk (directory.child name)
  readIndexes disk (directory.child (indexesFile (collectionRead name))) collection

/-- Reads collections one after another; a later one replaces an earlier one of its name. -/
def readCollections (disk : Disk) (directory : Location) (database : Database) :
    List String → Except Error Database
  | [] => .ok database
  | name :: rest => do
      let collection ← readCollection disk directory name
      readCollections disk directory (database.insert (collectionRead name) collection) rest

/-- The files of documents in a directory. -/
def documentsFiles (disk : Disk) (directory : Location) : Except Error (List String) := do
  let names ← onDisk (disk.list directory)
  .ok (names.filter isDocumentsFile)

/-- Reads a database. -/
def readDatabase (disk : Disk) (directory : Location) : Except Error Database := do
  let names ← documentsFiles disk directory
  readCollections disk directory SortedMap.empty names

/-- Reads databases one after another. -/
def readDatabases (disk : Disk) (root : Location) (databases : SortedMap String Database) :
    List String → Except Error (SortedMap String Database)
  | [] => .ok databases
  | name :: rest => do
      let database ← readDatabase disk (root.child name)
      readDatabases disk root (databases.insert name database) rest

/-- The directories below the root. -/
def databaseDirectories (disk : Disk) (root : Location) : Except Error (List String) := do
  let names ← onDisk (disk.list root)
  .ok (names.filter fun name => disk.isDirectory (root.child name))

/-- The store that a root holds. -/
def load (disk : Disk) (root : Location) : Except Error Store :=
  if disk.exists? root then do
    let names ← databaseDirectories disk root
    let databases ← readDatabases disk root SortedMap.empty names
    .ok ⟨databases⟩
  else .ok Store.empty

/-! ## Log lines -/

/-- The line about documents that were passed over. -/
def skippedLines (disk : Disk) (file : Location) : List LogLine :=
  match readDocuments disk file with
  | .ok (_, skipped) =>
      if skipped = 0 then []
      else
        [⟨.warn, .files, file.text ++ ": skipped " ++ toString skipped ++
          " documents without a string _id"⟩]
  | .error _ => []

/-- The lines about the collections of a database, up to the first that cannot be read. -/
def collectionLines (disk : Disk) (directory : Location) : List String → List LogLine
  | [] => []
  | name :: rest =>
      skippedLines disk (directory.child name) ++
        (match readCollection disk directory name with
          | .ok _ => collectionLines disk directory rest
          | .error _ => [])

/-- The lines about a database. -/
def databaseLines (disk : Disk) (root : Location) (name : String) : List LogLine :=
  match documentsFiles disk (root.child name) with
  | .error _ => []
  | .ok files =>
      collectionLines disk (root.child name) files ++
        (match readDatabase disk (root.child name) with
          | .ok database =>
              [⟨.debug, .files, "loaded database " ++ name ++ " with " ++
                toString database.size ++ " collections"⟩]
          | .error _ => [])

/-- The lines about databases, up to the first that cannot be read. -/
def databasesLines (disk : Disk) (root : Location) : List String → List LogLine
  | [] => []
  | name :: rest =>
      databaseLines disk root name ++
        (match readDatabase disk (root.child name) with
          | .ok _ => databasesLines disk root rest
          | .error _ => [])

/-- The lines that loading a root gives rise to. -/
def loadLines (disk : Disk) (root : Location) : List LogLine :=
  if disk.exists? root then
    match databaseDirectories disk root with
    | .ok names => databasesLines disk root names
    | .error _ => []
  else
    [⟨.info, .files,
      "data directory " ++ root.text ++ " does not exist, starting empty"⟩]

end DocStore.DataDirectory
