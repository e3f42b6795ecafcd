import DocStore.Store.Collection

/-!
Contract: stores.

A store holds databases, a database holds collections. Inserting creates the
database and the collection it names, even if the document is then refused;
every other operation needs both to be there and changes nothing when it fails.
Fresh document keys are supplied by the caller.

Owns: `Store`, its catalogue, and the operations on documents and indexes.
-/

namespace DocStore

/-- The collections of a database under their names. -/
abbrev Database := SortedMap String Collection

/-- Databases under their names. -/
structure Store where
  databases : SortedMap String Database

namespace Store

def empty : Store := ⟨SortedMap.empty⟩

instance : Inhabited Store := ⟨empty⟩

/-! ## Catalogue -/

def database (store : Store) (database : String) : Except Error Database :=
  match store.databases.find? database with
  | some collections => .ok collections
  | none => .error (.databaseNotFound database)

def collection (store : Store) (database collection : String) : Except Error Collection := do
  let collections ← store.database database
  match collections.find? collection with
  | some found => .ok found
  | none => .error (.collectionNotFound database collection)

/-- Puts a collection in place, creating its database if needed. -/
def putCollection (store : Store) (database collection : String) (content : Collection) :
    Store :=
  let collections := (store.databases.find? database).getD SortedMap.empty
  ⟨store.databases.insert database (collections.insert collection content)⟩

/-- Creates a database unless it exists. -/
def createDatabase (store : Store) (database : String) : Store :=
  match store.databases.find? database with
  | some _ => store
  | none => ⟨store.databases.insert database SortedMap.empty⟩

/-- The collection with a name, empty if it does not exist. -/
def collectionOrEmpty (store : Store) (database collection : String) : Collection :=
  match store.collection database collection with
  | .ok found => found
  | .error _ => Collection.empty

/-- Creates a collection, and its database, unless it exists. -/
def createCollection (store : Store) (database collection : String) : Store :=
  store.putCollection database collection (store.collectionOrEmpty database collection)

/-- Drops a collection and tells whether it existed. -/
def dropCollection (store : Store) (database collection : String) :
    Except Error (Bool × Store) := do
  let collections ← store.database database
  .ok (collections.contains collection,
    ⟨store.databases.insert database (collections.erase collection)⟩)

def databaseNames (store : Store) : List String := store.databases.keys

def collectionNames (store : Store) (database : String) : Except Error (List String) := do
  let collections ← store.database database
  .ok collections.keys

/-! ## Documents -/

/-- Adds a document, creating its collection, and answers its key. The store that is left is
answered in any case. -/
def insert (store : Store) (database collection : String) (fresh : String)
    (document : Document) : Except Error String × Store :=
  let store := store.createCollection database collection
  match (store.collectionOrEmpty database collection).add fresh document with
  | .ok (key, content) => (.ok key, store.putCollection database collection content)
  | .error error => (.error error, store)

/-- Adds documents to a collection up to the first that is refused. -/
def addAll (content : Collection) (fresh : Nat → String) :
    List Document → Except Error (List String) × Collection
  | [] => (.ok [], content)
  | document :: rest =>
      match content.add (fresh 0) document with
      | .error error => (.error error, content)
      | .ok (key, next) =>
          match addAll next (fun position => fresh (position + 1)) rest with
          | (.ok keys, final) => (.ok (key :: keys), final)
          | (.error error, final) => (.error error, final)

/-- Adds documents in order, stopping at the first that is refused; `fresh` supplies a key for
every position. -/
def insertMany (store : Store) (database collection : String) (fresh : Nat → String)
    (documents : List Document) : Except Error (List String) × Store :=
  let (outcome, content) :=
    addAll (store.collectionOrEmpty database collection) fresh documents
  (outcome, store.putCollection database collection content)

/-- Deletes the document with a key and tells whether there was one. -/
def delete (store : Store) (database collection key : String) : Except Error (Bool × Store) := do
  let content ← store.collection database collection
  match content.take key with
  | some left => .ok (true, store.putCollection database collection left)
  | none => .ok (false, store)

/-- The document with a key. -/
def get? (store : Store) (database collection key : String) :
    Except Error (Option Document) := do
  let content ← store.collection database collection
  .ok (content.documents.find? key)

/-! ## Indexes -/

/-- Builds an index over a field, anew if there is one. -/
def createIndex (store : Store) (database collection field : String) : Except Error Store :=
  if field = "" then .error .emptyIndexField
  else do
    let content ← store.collection database collection
    .ok (store.putCollection database collection (content.buildIndex field))

/-- Drops the index over a field and tells whether there was one. -/
def dropIndex (store : Store) (database collection field : String) :
    Except Error (Bool × Store) := do
  let content ← store.collection database collection
  .ok (content.indexes.contains field,
    store.putCollection database collection
      { content with indexes := content.indexes.erase field })

/-- The indexed fields of a collection. -/
def indexNames (store : Store) (database collection : String) : Except Error (List String) := do
  let content ← store.collection database collection
  .ok content.indexes.keys

end Store

end DocStore
