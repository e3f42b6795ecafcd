import DocStore.Store.Basic

/-!
Contract: what query evaluation needs of a store.

A source hands out whole collections, index look-ups, document counts and
documents by key. The last can always be derived from the first.

Owns: `Source`, the source of a store, and the derived reader by keys.
-/

namespace DocStore

/-- The documents of a collection under their keys. -/
abbrev Snapshot := SortedMap String Document

/-- Where a query reads from; the first two arguments name database and collection. -/
structure Source where
  snapshot : String → String → Except Error Snapshot
  /-- The keys that an index answers, or none if the field has no index. -/
  indexLookup : String → String → String → Comparison → Value → Except Error (Option KeySet)
  count : String → String → Except Error Nat
  /-- The documents with the given keys in key order. -/
  documentsAt : String → String → KeySet → Except Error (List Document)

namespace Source

/-- Documents by key, read off the whole collection. -/
def documentsInSnapshot (source : Source) (database collection : String) (keys : KeySet) :
    Except Error (List Document) := do
  let snapshot ← source.snapshot database collection
  .ok (snapshot.filter fun key _ => keys.contains key).values

/-- The same source with documents by key read off whole collections. -/
def readingSnapshots (source : Source) : Source :=
  { source with documentsAt := source.documentsInSnapshot }

end Source

/-- A store as a source. -/
def Store.source (store : Store) : Source where
  snapshot database collection := do
    let content ← store.collection database collection
    .ok content.documents
  indexLookup database collection field comparison literal := do
    let content ← store.collection database collection
    .ok ((content.indexes.find? field).map fun index => index.lookup comparison literal)
  count database collection := do
    let content ← store.collection database collection
    .ok content.count
  documentsAt database collection keys := do
    let content ← store.collection database collection
    .ok (content.documentsAt keys)

end DocStore
