import DocStore.Query.Filtering
import DocStore.Request.Basic
import DocStore.Transform.Evaluation
import DocStore.Stage.Grouping
import DocStore.Stage.Distinct
import DocStore.Stage.Sorting
import DocStore.Stage.Joining

/-!
Contract: running pipelines.

The steps of a valid request are applied from left to right, and the first
error ends the run. A step that needs documents where there are none brings in
the whole collection; a count at the very start is answered by the source
without reading documents. A request without steps yields nothing.

Owns: `applyStep`, `applySteps`, `run`.
-/

namespace DocStore

namespace Query

/-- The documents of a stream, the whole collection if none have been brought in. -/
def broughtIn (source : Source) (database collection : String) (stream : Stream) :
    Except Error (List Document) :=
  match stream.documents? with
  | some documents => .ok documents
  | none => do
      let snapshot ← source.snapshot database collection
      .ok snapshot.values

/-- The stream itself once it has documents, the whole collection as stored otherwise. -/
def withDocuments (source : Source) (database collection : String) (stream : Stream) :
    Except Error Stream :=
  if stream.hasDocuments then .ok stream
  else do
    let documents ← broughtIn source database collection stream
    .ok (.stored documents)

/-- The document that answers a count. -/
def countAnswer (count : Nat) : Document :=
  Document.empty.set countField (.number (Number.ofNat count))

/-- Applies one step to a stream. -/
def applyStep (source : Source) (settings : Settings) (database collection : String)
    (stream : Stream) : Step → Except Error Stream
  | .filter predicate =>
      filterStream source settings database collection predicate stream
  | .map transforms => do
      let documents ← broughtIn source database collection stream
      .ok (.derived (documents.map (Transform.applyAll settings transforms)))
  | .groupBy field => do
      let documents ← broughtIn source database collection stream
      .ok (.derived (Stage.groupBy field documents))
  | .join spec => do
      let documents ← broughtIn source database collection stream
      let remote ← source.snapshot database spec.collection
      let partners := Stage.partnersOf spec.remoteField remote.values
      .ok (.derived (documents.map (Stage.withPartners spec partners)))
  | .count =>
      match stream.documents? with
      | some documents => .ok (.derived [countAnswer documents.length])
      | none => do
          let count ← source.count database collection
          .ok (.derived [countAnswer count])
  | .distinct field => do
      let documents ← broughtIn source database collection stream
      .ok (.derived (Stage.distinct field documents))
  | .limit count => do
      let stream ← withDocuments source database collection stream
      .ok (stream.mapDocuments (List.take count))
  | .skip count => do
      let stream ← withDocuments source database collection stream
      .ok (stream.mapDocuments (List.drop count))
  | .sort field ascending => do
      let stream ← withDocuments source database collection stream
      .ok (stream.mapDocuments (Stage.sort field ascending))

/-- Applies steps from left to right. -/
def applySteps (source : Source) (settings : Settings) (database collection : String)
    (stream : Stream) : List Step → Except Error Stream
  | [] => .ok stream
  | step :: rest => do
      let next ← applyStep source settings database collection stream step
      applySteps source settings database collection next rest

/-- Runs a request. -/
def run (source : Source) (settings : Settings) (request : Request) :
    Except Error (List Document) := do
  request.check
  let stream ←
    applySteps source settings request.database request.collection .unread request.steps
  .ok stream.documents

end Query

end DocStore
