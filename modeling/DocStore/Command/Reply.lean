import DocStore.Command.Arguments
import DocStore.Command.Report
import DocStore.DataDirectory.Loading
import DocStore.Query.Narration
import DocStore.Request.Json
import DocStore.Predicate.Json

/-!
Contract: what a task answers, given an opened store.

A task reads its input file and the store and answers with lines of output, a
closing remark and, if it changes the store, the store to be saved. It changes
nothing itself: a task that fails leaves nothing to save.

Owns: `Reply`, the replies to all tasks, and the log lines of tasks.
Does not own: opening and saving the store.
-/

namespace DocStore.Command

/-- The answer to a task. -/
structure Reply where
  output : List String
  remark : Option String
  saved : Option Store

/-- An answer that changes nothing. -/
def Reply.ofOutput (output : List String) : Reply := ⟨output, none, none⟩

/-! ## Input -/

variable [NumeralReader]

/-- The JSON data in an input file. -/
def readInput (disk : Disk) (file : String) : Except Report Json :=
  match disk.readText (Location.ofText file) with
  | .error fault => .error ⟨"Failed to read file: " ++ file, [fault.message]⟩
  | .ok text =>
      match Json.parse? text with
      | some json => .ok json
      | none => .error ⟨"Invalid JSON in file: " ++ file, []⟩

/-- The predicate in an input file. -/
def readPredicate (disk : Disk) (file : String) : Except Report Predicate := do
  let json ← readInput disk file
  Report.within ("Invalid predicate tree in " ++ file) (Predicate.decode json)

/-- The request in an input file. -/
def readRequest (disk : Disk) (file : String) : Except Report Request := do
  let json ← readInput disk file
  Report.within ("Invalid aggregate request in " ++ file) (Request.decode json)

/-! ## Importing -/

/-- The entries of an input file: the members of a list, or one document. -/
def entriesOf (file : String) : Json → Except Report (List Json)
  | .array items => .ok items
  | .object members => .ok [.object members]
  | _ => .error ⟨file ++ " must contain a document or an array of documents", []⟩

/-- Adds entries to a store, the first of them being at a position; `fresh` supplies a key for
every position. -/
def importEntries (fresh : Nat → String) (file : String) (target : Target) (position : Nat)
    (store : Store) : List Json → Except Report Store
  | [] => .ok store
  | entry :: rest => do
      let document ←
        Report.within ("Entry " ++ toString position ++ " of " ++ file ++ " is not a document")
          (Document.ofJson entry)
      let (outcome, next) :=
        store.insert target.database target.collection (fresh position) document
      let _ ←
        Report.within
          ("Failed to insert entry " ++ toString position ++ " into " ++ target.name) outcome
      importEntries fresh file target (position + 1) next rest

def replyToImport (fresh : Nat → String) (disk : Disk) (store : Store) (file : String)
    (target : Target) : Except Report Reply := do
  let json ← readInput disk file
  let entries ← entriesOf file json
  let next ← importEntries fresh file target 0 store entries
  .ok ⟨["Imported " ++ toString entries.length ++ " documents into " ++ target.name],
    none, some next⟩

/-! ## Indexes -/

/-- The name of an index in messages. -/
def indexName (field : String) (target : Target) : String :=
  "index on '" ++ field ++ "' in " ++ target.name

def replyToCreateIndex (store : Store) (field : String) (target : Target) :
    Except Report Reply := do
  let next ←
    Report.within ("Failed to create index on " ++ target.name ++ "." ++ field)
      (store.createIndex target.database target.collection field)
  .ok ⟨["Created " ++ indexName field target], none, some next⟩

def replyToDropIndex (store : Store) (field : String) (target : Target) :
    Except Report Reply := do
  let (existed, next) ←
    Report.within ("Failed to drop index on " ++ target.name ++ "." ++ field)
      (store.dropIndex target.database target.collection field)
  let outcome := if existed then "Dropped " else "No "
  .ok ⟨[outcome ++ indexName field target], none, some next⟩

/-! ## Queries -/

def replyToFilter (settings : Settings) (disk : Disk) (store : Store) (file : String)
    (target : Target) : Except Report Reply := do
  let predicate ← readPredicate disk file
  let documents ←
    Report.within ("Failed to filter " ++ target.name)
      (Query.documentsMeeting store.source settings target.database target.collection predicate)
  .ok ⟨documents.map Document.compact,
    some (toString documents.length ++ " documents matched"), none⟩

def replyToAggregate (settings : Settings) (disk : Disk) (store : Store) (file : String) :
    Except Report Reply := do
  let request ← readRequest disk file
  let documents ←
    Report.within ("Failed to aggregate " ++ request.database ++ "." ++ request.collection)
      (Query.run store.source settings request)
  .ok (.ofOutput [(Json.array (documents.map Document.toJson)).pretty])

def replyToCount (store : Store) (target : Target) : Except Report Reply := do
  let count ←
    Report.within ("Failed to count " ++ target.name)
      (store.source.count target.database target.collection)
  .ok (.ofOutput [toString count])

/-! ## Listing -/

/-- The line about a collection. -/
def collectionLine (database name : String) (content : Collection) : String :=
  let fields := content.indexes.keys
  let indexes := if fields.isEmpty then "" else ", indexes: " ++ ", ".intercalate fields
  database ++ "." ++ name ++ " (" ++ toString content.count ++ " documents" ++ indexes ++ ")"

/-- The lines about the collections of a database. -/
def collectionLines (name : String) (database : Database) : List String :=
  database.toList.map fun (collection, content) => collectionLine name collection content

def replyToCollections (store : Store) (database : Option String) : Except Report Reply :=
  match database with
  | none =>
      .ok (.ofOutput (store.databases.toList.flatMap fun (name, database) =>
        collectionLines name database))
  | some name => do
      let database ← Report.within ("Failed to list collections of " ++ name) (store.database name)
      .ok (.ofOutput (collectionLines name database))

/-! ## Tasks -/

/-- The answer to a task. -/
def Task.reply (settings : Settings) (fresh : Nat → String) (disk : Disk) (store : Store) :
    Task → Except Report Reply
  | importFile file target => replyToImport fresh disk store file target
  | createIndex field target => replyToCreateIndex store field target
  | dropIndex field target => replyToDropIndex store field target
  | filter file target => replyToFilter settings disk store file target
  | aggregate file => replyToAggregate settings disk store file
  | count target => replyToCount store target
  | collections database => replyToCollections store database

/-- The line about an index that can be built. -/
def indexLines (store : Store) (field : String) (target : Target) : List LogLine :=
  match store.createIndex target.database target.collection field,
      store.collection target.database target.collection with
  | .ok _, .ok content =>
      [⟨.info, .store, "built index on " ++ target.name ++ "." ++ field ++ " over " ++
        toString content.documents.size ++ " documents"⟩]
  | _, _ => []

/-- The log lines of a task. -/
def Task.lines (settings : Settings) (disk : Disk) (store : Store) : Task → List LogLine
  | createIndex field target => indexLines store field target
  | filter file target =>
      match readPredicate disk file with
      | .ok predicate =>
          Query.filterLines store.source settings target.database target.collection predicate
            .unread
      | .error _ => []
  | aggregate file =>
      match readRequest disk file with
      | .ok request => Query.runLines store.source settings request
      | .error _ => []
  | importFile _ _ | dropIndex _ _ | count _ | collections _ => []

end DocStore.Command
