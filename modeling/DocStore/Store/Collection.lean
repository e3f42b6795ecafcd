import DocStore.Index.Basic

/-!
Contract: collections of documents.

A collection holds documents under their keys, indexes under their fields, and
a count of its documents. Adding a document without a key gives it a fresh one;
a key that is no string or is taken refuses the document. Every change keeps
indexes and count in step.

Owns: `Collection` and its changes.
-/

namespace DocStore

/-- Documents under their keys, with the indexes over them and their number. -/
structure Collection where
  documents : SortedMap String Document
  indexes : SortedMap String Index
  count : Nat

namespace Collection

def empty : Collection := ⟨SortedMap.empty, SortedMap.empty, 0⟩

instance : Inhabited Collection := ⟨empty⟩

/-- The key a document asks for; a document without one gets the fresh key. -/
def keyFor (fresh : String) (document : Document) : Except Error String :=
  match document.get? Document.keyField with
  | none => .ok fresh
  | some (.string key) => .ok key
  | some other => .error (.keyNotString other.canonical)

/-- Adds a document and answers its key. -/
def add (collection : Collection) (fresh : String) (document : Document) :
    Except Error (String × Collection) := do
  let key ← keyFor fresh document
  if collection.documents.contains key then .error (.duplicateKey key)
  else
    let stored := document.withKey key
    .ok (key,
      { documents := collection.documents.insert key stored
        indexes := collection.indexes.mapValues fun index => index.insert stored
        count := collection.count + 1 })

/-- Takes the document with a key out, if there is one. -/
def take (collection : Collection) (key : String) : Option Collection :=
  (collection.documents.find? key).map fun document =>
    { documents := collection.documents.erase key
      indexes := collection.indexes.mapValues fun index => index.remove document
      count := collection.count - 1 }

/-- Builds the index over a field anew. -/
def buildIndex (collection : Collection) (field : String) : Collection :=
  { collection with
    indexes := collection.indexes.insert field
      (Index.build field collection.documents.values) }

/-- The documents with the given keys, in key order; keys without a document are passed over. -/
def documentsAt (collection : Collection) (keys : KeySet) : List Document :=
  keys.keys.filterMap collection.documents.find?

end Collection

end DocStore
