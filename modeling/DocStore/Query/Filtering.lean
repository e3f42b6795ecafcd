import DocStore.Query.Resolution
import DocStore.Query.Stream

/-!
Contract: filtering the documents of a pipeline.

The first filter of a pipeline reads only what it has to: the documents that
indexes answer, if those alone decide the predicate, and the whole collection
otherwise. A later filter trusts index answers for stored documents; documents
that have been reshaped are tested against the predicate itself.

Owns: `selectedDocuments`, `filterStream`, `documentsMeeting`.
-/

namespace DocStore

namespace Query

/-- Brings in the documents that a resolved predicate selects. -/
def selectedDocuments (source : Source) (database collection : String) :
    Resolved → Except Error (List Document)
  | .scan leaf => do
      let snapshot ← source.snapshot database collection
      .ok (snapshot.values.filter leaf.accepts)
  | resolved =>
      if resolved.needsDocuments then do
        let snapshot ← source.snapshot database collection
        let keys := resolved.selected snapshot snapshot.keySet
        .ok (snapshot.filter fun key _ => keys.contains key).values
      else
        source.documentsAt database collection (resolved.selected SortedMap.empty SortedMap.empty)

/-- Filters a stream. -/
def filterStream (source : Source) (settings : Settings) (database collection : String)
    (predicate : Predicate) : Stream → Except Error Stream
  | .stored documents => do
      let resolved ← Resolved.ofPredicate source settings database collection predicate
      .ok (.stored (documents.filter fun document => resolved.accepts document))
  | .derived documents =>
      .ok (.derived (documents.filter fun document => predicate.accepts document))
  | .unread => do
      let resolved ← Resolved.ofPredicate source settings database collection predicate
      let documents ← selectedDocuments source database collection resolved
      .ok (.stored documents)

/-- The documents of a collection that meet a predicate. -/
def documentsMeeting (source : Source) (settings : Settings) (database collection : String)
    (predicate : Predicate) : Except Error (List Document) := do
  let stream ← filterStream source settings database collection predicate .unread
  .ok stream.documents

end Query

end DocStore
