import DocStore.Query.Pipeline
import DocStore.Proofs.Query.Filtering
import DocStore.Proofs.Stage.Joining

/-!
Contract: a pipeline is its steps on plain lists.

Read plainly, a request starts from the documents of its collection in key order
and every step turns one list into the next. A run keeps track of whether its
documents have been read and reshaped, trusts indexes while they have not, and
answers a leading count without reading; none of this shows in the outcome. A
stream stands for a list when it holds that list, stored streams hold documents
of the collection only, and an unread stream stands for the whole collection.

Owns: the plain reading of requests, `Stream.StandsFor`, and the agreement of runs.
-/

namespace DocStore

/-! ## The plain reading -/

/-- What a step makes of a list of documents. -/
def Step.onList (store : Store) (settings : Settings) (database : String)
    (documents : List Document) : Step → Except Error (List Document)
  | .filter predicate => .ok (documents.filter fun document => predicate.accepts document)
  | .map transforms => .ok (documents.map (Transform.applyAll settings transforms))
  | .groupBy field => .ok (Stage.groupBy field documents)
  | .join spec => do
      let remote ← store.collection database spec.collection
      .ok (documents.map (Stage.attached spec remote.documents.values))
  | .count => .ok [⟨[("count", .number (.ofNat documents.length))]⟩]
  | .distinct field => .ok (Stage.distinct field documents)
  | .limit amount => .ok (documents.take amount)
  | .skip amount => .ok (documents.drop amount)
  | .sort field ascending => .ok (Stage.sort field ascending documents)

/-- What steps make of a list of documents, from left to right. -/
def Step.allOnList (store : Store) (settings : Settings) (database : String)
    (documents : List Document) : List Step → Except Error (List Document)
  | [] => .ok documents
  | step :: rest => do
      let next ← step.onList store settings database documents
      allOnList store settings database next rest

/-- The documents that a request asks for: the steps on the whole collection. -/
def Request.answer (store : Store) (settings : Settings) (request : Request) :
    Except Error (List Document) := do
  let content ← store.collection request.database request.collection
  Step.allOnList store settings request.database content.documents.values request.steps

/-! ## Streams and lists -/

/-- A stream of documents of a collection stands for a list. -/
inductive Stream.StandsFor (content : Collection) : Stream → List Document → Prop
  | unread : StandsFor content .unread content.documents.values
  | stored (documents : List Document)
      (ofCollection : ∀ document ∈ documents, document ∈ content.documents.values) :
      StandsFor content (.stored documents) documents
  | derived (documents : List Document) : StandsFor content (.derived documents) documents

/-- An outcome in streams agrees with one in lists: both fail alike, or a stream that has been
read stands for the list. -/
inductive Stream.Agrees (content : Collection) :
    Except Error Stream → Except Error (List Document) → Prop
  | failed (error : Error) : Agrees content (.error error) (.error error)
  | went {stream : Stream} {documents : List Document} (stands : stream.StandsFor content documents)
      (isRead : stream.hasDocuments = true) : Agrees content (.ok stream) (.ok documents)

namespace Query

variable {store : Store} {database collection : String} {content : Collection}

/-- The answer to a count holds the count and nothing else. -/
theorem countAnswer_eq (count : Nat) :
    countAnswer count = ⟨[("count", .number (.ofNat count))]⟩ := rfl

theorem broughtIn_eq_ok (found : store.collection database collection = .ok content)
    {stream : Stream} {documents : List Document}
    (stands : stream.StandsFor content documents) :
    broughtIn store.source database collection stream = .ok documents := by
  cases stands with
  | unread =>
      show (store.source.snapshot database collection >>= fun snapshot => .ok snapshot.values) = _
      rw [snapshot_eq_ok found]
      rfl
  | stored ofCollection => rfl
  | derived => rfl

/-- A step that only takes documents away or moves them keeps the state of the stream. -/
theorem agrees_withDocuments (found : store.collection database collection = .ok content)
    {stream : Stream} {documents : List Document} (stands : stream.StandsFor content documents)
    (change : List Document → List Document)
    (keeps : ∀ document ∈ change documents, document ∈ documents) :
    Stream.Agrees content
      (do
        let stream ← withDocuments store.source database collection stream
        .ok (stream.mapDocuments change))
      (.ok (change documents)) := by
  have brought := broughtIn_eq_ok found stands
  cases stands with
  | unread =>
      rw [withDocuments, brought]
      exact .went (.stored _ keeps) rfl
  | stored _ ofCollection =>
      exact .went (.stored _ fun document member => ofCollection document (keeps document member))
        rfl
  | derived => exact .went (.derived _) rfl

/-- One step keeps a stream and a list in agreement. -/
theorem agrees_applyStep (sound : store.Every Collection.Sound)
    (found : store.collection database collection = .ok content) (settings : Settings)
    {stream : Stream} {documents : List Document} (stands : stream.StandsFor content documents)
    (step : Step) :
    Stream.Agrees content (applyStep store.source settings database collection stream step)
      (step.onList store settings database documents) := by
  have isSound := sound database collection content found
  have brought := broughtIn_eq_ok found stands
  cases step with
  | filter predicate =>
      cases stands with
      | unread =>
          rw [applyStep, filterStream_unread found isSound]
          refine .went (.stored _ ?_) rfl
          exact fun document member => (List.mem_filter.1 member).1
      | stored _ ofCollection =>
          rw [applyStep, filterStream_stored found isSound settings predicate ofCollection]
          refine .went (.stored _ ?_) rfl
          exact fun document member => ofCollection document (List.mem_filter.1 member).1
      | derived => exact .went (.derived _) rfl
  | map transforms =>
      rw [applyStep, brought]
      exact .went (.derived _) rfl
  | groupBy field =>
      rw [applyStep, brought]
      exact .went (.derived _) rfl
  | join spec =>
      rw [applyStep, brought, Step.onList]
      cases remoteFound : store.collection database spec.collection with
      | error error =>
          simp only [bind, Except.bind, snapshot_eq_error remoteFound]
          exact .failed error
      | ok remote =>
          simp only [bind, Except.bind, snapshot_eq_ok remoteFound,
            Stage.withPartners_partnersOf]
          exact .went (.derived _) rfl
  | count =>
      rw [applyStep]
      simp only [countAnswer_eq]
      cases stands with
      | unread =>
          -- The counter of a sound collection is the length of its document list.
          have counted : store.source.count database collection =
              .ok content.documents.values.length := by
            simp only [Store.source, found, bind, Except.bind, isSound.counted]
            simp only [SortedMap.size, SortedMap.values, List.length_map]
          simp only [Stream.documents?, counted, bind, Except.bind]
          exact .went (.derived _) rfl
      | stored => exact .went (.derived _) rfl
      | derived => exact .went (.derived _) rfl
  | distinct field =>
      rw [applyStep, brought]
      exact .went (.derived _) rfl
  | limit count =>
      exact agrees_withDocuments found stands (List.take count) fun document member =>
        List.mem_of_mem_take member
  | skip count =>
      exact agrees_withDocuments found stands (List.drop count) fun document member =>
        List.mem_of_mem_drop member
  | sort field ascending =>
      refine agrees_withDocuments found stands (Stage.sort field ascending) ?_
      intro document member
      exact (List.mergeSort_perm documents _).mem_iff.1 member

/-- A run of steps keeps a stream and a list in agreement. -/
theorem documents_applySteps (sound : store.Every Collection.Sound)
    (found : store.collection database collection = .ok content) (settings : Settings)
    (steps : List Step) {stream : Stream} {documents : List Document}
    (stands : stream.StandsFor content documents)
    (isRead : stream.hasDocuments = true ∨ steps ≠ []) :
    (applySteps store.source settings database collection stream steps).map Stream.documents =
      Step.allOnList store settings database documents steps := by
  induction steps generalizing stream documents with
  | nil =>
      cases stands with
      | unread => simp [Stream.hasDocuments] at isRead
      | stored => rfl
      | derived => rfl
  | cons step rest inductionHypothesis =>
      have agrees := agrees_applyStep sound found settings stands step
      rw [applySteps, Step.allOnList]
      generalize applyStep store.source settings database collection stream step = outcome
        at agrees
      generalize step.onList store settings database documents = listed at agrees
      cases agrees with
      | failed error => rfl
      | went nextStands nextRead => exact inductionHypothesis nextStands (.inl nextRead)

/-! ## Missing collections -/

theorem applyStep_unread_of_missing {error : Error}
    (missing : store.collection database collection = .error error) (settings : Settings)
    (step : Step) :
    applyStep store.source settings database collection .unread step = .error error := by
  have noSnapshot : broughtIn store.source database collection .unread = .error error := by
    simp only [broughtIn, Stream.documents?, snapshot_eq_error missing]
    rfl
  have noCount : store.source.count database collection = .error error := by
    simp only [Store.source, missing]
    rfl
  cases step with
  | filter predicate => exact filterStream_unread_of_missing missing settings predicate
  | count =>
      simp only [applyStep, Stream.documents?, noCount]
      rfl
  | limit amount | skip amount | sort field ascending =>
      simp only [applyStep, withDocuments, noSnapshot]
      rfl
  | map transforms | groupBy field | join spec | distinct field =>
      simp only [applyStep, noSnapshot]
      rfl

/-- A count at the start is taken from the counter, without documents. -/
private def counted : Request := ⟨"d", "c", [.count]⟩

end Query

end DocStore
