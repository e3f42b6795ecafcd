import Mathlib.Data.List.Perm.Basic
import DocStore.Proofs.Outcome
import DocStore.Proofs.Query.Pipeline
import DocStore.Proofs.Store.Insertion

/-!
Contract: stored streams hold rows of the collection that a request names.

A step either reshapes documents, and then what it hands on counts as derived, or
it hands on some of the documents it is given, each at most once and unchanged,
and the stream keeps its state. So behind any steps of a run the state of the
stream is told by those steps: unread behind none of them, derived behind a step
that reshapes, stored otherwise. A stored stream holds different rows of the
collection, each as the store has it.

Owns: `Step.reshapes`, `Stream.isDerived`, `Query.Carries`, `Query.Reaches`, and
what they say about runs.
-/

namespace DocStore

/-- Steps whose documents may differ from the ones they are given. -/
def Step.reshapes : Step → Bool
  | .map _ | .groupBy _ | .join _ | .count | .distinct _ => true
  | .filter _ | .limit _ | .skip _ | .sort _ _ => false

namespace Stream

def isDerived : Stream → Bool
  | derived _ => true
  | _ => false

theorem isStored_eq (stream : Stream) :
    stream.isStored = (stream.hasDocuments && !stream.isDerived) := by
  cases stream <;> rfl

@[simp] theorem hasDocuments_mapDocuments (change : List Document → List Document)
    (stream : Stream) : (stream.mapDocuments change).hasDocuments = stream.hasDocuments := by
  cases stream <;> rfl

@[simp] theorem isDerived_mapDocuments (change : List Document → List Document)
    (stream : Stream) : (stream.mapDocuments change).isDerived = stream.isDerived := by
  cases stream <;> rfl

theorem documents_mapDocuments (change : List Document → List Document) {stream : Stream}
    (isRead : stream.hasDocuments = true) :
    (stream.mapDocuments change).documents = change stream.documents := by
  cases stream with
  | unread => cases isRead
  | stored documents | derived documents => rfl

end Stream

namespace Query

/-! ## What steps do to a stream -/

/-- What a stream and one that steps have made of it have in common. -/
structure Carries (source : Source) (database collection : String) (stream : Stream)
    (steps : List Step) (next : Stream) : Prop where
  isRead : next.hasDocuments = (stream.hasDocuments || !steps.isEmpty)
  isDerived : next.isDerived = (stream.isDerived || steps.any Step.reshapes)
  /-- Unless a step reshapes them, documents are handed on unchanged and at most once each. -/
  handsOn : next.hasDocuments = true → steps.any Step.reshapes = false →
    ∃ documents, broughtIn source database collection stream = .ok documents ∧
      next.documents.Subperm documents

section Sources

variable {source : Source} {database collection : String}

theorem broughtIn_of_hasDocuments {stream : Stream} (isRead : stream.hasDocuments = true) :
    broughtIn source database collection stream = .ok stream.documents := by
  cases stream with
  | unread => cases isRead
  | stored documents | derived documents => rfl

theorem carries_nil (stream : Stream) : Carries source database collection stream [] stream where
  isRead := (Bool.or_false _).symm
  isDerived := (Bool.or_false _).symm
  handsOn := fun isRead _ => ⟨stream.documents, broughtIn_of_hasDocuments isRead, .refl _⟩

/-- Steps behind a first one carry on from what it has read. -/
theorem Carries.cons {stream between next : Stream} {step : Step} {rest : List Step}
    (first : Carries source database collection stream [step] between)
    (others : Carries source database collection between rest next) :
    Carries source database collection stream (step :: rest) next := by
  have betweenRead : between.hasDocuments = true := by
    rw [first.isRead]
    exact Bool.or_true _
  refine ⟨?_, ?_, ?_⟩
  · rw [others.isRead, betweenRead]
    simp only [Bool.true_or, List.isEmpty_cons, Bool.not_false, Bool.or_true]
  · rw [others.isDerived, first.isDerived, Bool.or_assoc]
    simp only [List.any_cons, List.any_nil, Bool.or_false]
  · intro isRead noneReshapes
    simp only [List.any_cons, Bool.or_eq_false_iff] at noneReshapes
    obtain ⟨betweenDocuments, brought, drawn⟩ := others.handsOn isRead noneReshapes.2
    rw [broughtIn_of_hasDocuments betweenRead, Except.ok.injEq] at brought
    obtain ⟨documents, isBrought, betweenDrawn⟩ := first.handsOn betweenRead
      (by simpa only [List.any_cons, List.any_nil, Bool.or_false] using noneReshapes.1)
    exact ⟨documents, isBrought, (brought ▸ drawn).trans betweenDrawn⟩

/-- A step that reshapes hands on derived documents. -/
theorem carries_of_reshapes {step : Step} (reshapes : step.reshapes = true) (stream : Stream)
    (documents : List Document) :
    Carries source database collection stream [step] (.derived documents) where
  isRead := (Bool.or_true _).symm
  isDerived := by simp only [Stream.isDerived, List.any_cons, reshapes, Bool.true_or, Bool.or_true]
  handsOn := by
    intro _ noneReshapes
    simp only [List.any_cons, reshapes, Bool.true_or, reduceCtorEq] at noneReshapes

/-- Bringing documents in keeps the state of a stream that has them. -/
theorem withDocuments_eq_ok {stream seeded : Stream}
    (isSeeded : withDocuments source database collection stream = .ok seeded) :
    seeded.hasDocuments = true ∧ seeded.isDerived = stream.isDerived ∧
      broughtIn source database collection stream = .ok seeded.documents := by
  cases stream with
  | unread =>
      obtain ⟨documents, brought, ⟨⟩⟩ := bind_eq_ok_iff.1 isSeeded
      exact ⟨rfl, rfl, brought⟩
  | stored documents | derived documents =>
      cases isSeeded
      exact ⟨rfl, rfl, rfl⟩

/-- A step that takes documents away or moves them keeps the state of the stream. -/
theorem carries_mapDocuments {step : Step} (keeps : step.reshapes = false)
    {change : List Document → List Document}
    (drawn : ∀ documents, (change documents).Subperm documents) {stream seeded : Stream}
    (isSeeded : withDocuments source database collection stream = .ok seeded) :
    Carries source database collection stream [step] (seeded.mapDocuments change) := by
  obtain ⟨isRead, sameState, brought⟩ := withDocuments_eq_ok isSeeded
  refine ⟨?_, ?_, ?_⟩
  · simp [isRead]
  · simp [sameState, keeps]
  · intro _ _
    refine ⟨seeded.documents, brought, ?_⟩
    rw [Stream.documents_mapDocuments change isRead]
    exact drawn seeded.documents

end Sources

variable {store : Store} {database collection : String}

/-- A filter of an unread stream brings in rows of the collection, and a later one only takes
documents away. -/
theorem carries_filterStream {settings : Settings} {predicate : Predicate} {stream next : Stream}
    (filtered : filterStream store.source settings database collection predicate stream =
      .ok next) :
    Carries store.source database collection stream [.filter predicate] next := by
  cases stream with
  | unread =>
      cases found : store.collection database collection with
      | error error =>
          rw [filterStream_unread_of_missing found] at filtered
          cases filtered
      | ok content =>
          obtain ⟨resolved, -, selected⟩ := bind_eq_ok_iff.1 filtered
          rw [selectedDocuments_eq_selected found] at selected
          cases selected
          refine ⟨rfl, rfl, fun _ _ => ⟨_, broughtIn_eq_ok found .unread, ?_⟩⟩
          exact (SortedMap.sublist_values_filter ..).subperm
  | stored documents =>
      obtain ⟨resolved, -, ⟨⟩⟩ := bind_eq_ok_iff.1 filtered
      exact ⟨rfl, rfl, fun _ _ => ⟨documents, rfl, List.filter_sublist.subperm⟩⟩
  | derived documents =>
      cases filtered
      exact ⟨rfl, rfl, fun _ _ => ⟨documents, rfl, List.filter_sublist.subperm⟩⟩

/-- The law of one step. -/
theorem carries_applyStep {settings : Settings} {stream next : Stream} {step : Step}
    (applied : applyStep store.source settings database collection stream step = .ok next) :
    Carries store.source database collection stream [step] next := by
  cases step with
  | filter predicate => exact carries_filterStream applied
  | map transforms | groupBy field | distinct field =>
      obtain ⟨documents, -, ⟨⟩⟩ := bind_eq_ok_iff.1 applied
      exact carries_of_reshapes rfl stream _
  | join spec =>
      obtain ⟨documents, -, joined⟩ := bind_eq_ok_iff.1 applied
      obtain ⟨remote, -, ⟨⟩⟩ := bind_eq_ok_iff.1 joined
      exact carries_of_reshapes rfl stream _
  | count =>
      cases stream with
      | unread =>
          obtain ⟨count, -, ⟨⟩⟩ := bind_eq_ok_iff.1 applied
          exact carries_of_reshapes rfl .unread _
      | stored documents | derived documents =>
          cases applied
          exact carries_of_reshapes rfl _ _
  | limit amount =>
      obtain ⟨seeded, isSeeded, ⟨⟩⟩ := bind_eq_ok_iff.1 applied
      exact carries_mapDocuments rfl (fun documents => (List.take_sublist ..).subperm) isSeeded
  | skip amount =>
      obtain ⟨seeded, isSeeded, ⟨⟩⟩ := bind_eq_ok_iff.1 applied
      exact carries_mapDocuments rfl (fun documents => (List.drop_sublist ..).subperm) isSeeded
  | sort field ascending =>
      obtain ⟨seeded, isSeeded, ⟨⟩⟩ := bind_eq_ok_iff.1 applied
      exact carries_mapDocuments rfl (fun documents => (List.mergeSort_perm ..).subperm) isSeeded

/-- The law of steps in a row. -/
theorem carries_applySteps {settings : Settings} {steps : List Step} {stream next : Stream}
    (applied : applySteps store.source settings database collection stream steps = .ok next) :
    Carries store.source database collection stream steps next := by
  induction steps generalizing stream with
  | nil =>
      cases applied
      exact carries_nil _
  | cons step rest inductionHypothesis =>
      obtain ⟨between, first, others⟩ := bind_eq_ok_iff.1 applied
      exact (carries_applyStep first).cons (inductionHypothesis others)

theorem applySteps_append (source : Source) (settings : Settings) (database collection : String)
    (front back : List Step) (stream : Stream) :
    applySteps source settings database collection stream (front ++ back) = (do
      let between ← applySteps source settings database collection stream front
      applySteps source settings database collection between back) := by
  induction front generalizing stream with
  | nil => rfl
  | cons step rest inductionHypothesis =>
      rw [List.cons_append, applySteps, applySteps]
      cases applyStep source settings database collection stream step with
      | error error => rfl
      | ok next => exact inductionHypothesis next

/-! ## Points of a run -/

/-- A run of a request comes to a stream behind some of its steps. -/
structure Reaches (source : Source) (settings : Settings) (request : Request) (done : List Step)
    (stream : Stream) : Prop where
  valid : request.check = .ok ()
  isFront : done <+: request.steps
  applied : applySteps source settings request.database request.collection .unread done =
    .ok stream

section Points

variable {settings : Settings} {request : Request} {done : List Step} {stream next : Stream}

theorem Reaches.step {source : Source} (reached : Reaches source settings request done stream)
    {step : Step} (isFront : done ++ [step] <+: request.steps)
    (applied : applyStep source settings request.database request.collection stream step =
      .ok next) :
    Reaches source settings request (done ++ [step]) next where
  valid := reached.valid
  isFront := isFront
  applied := by
    rw [applySteps_append, reached.applied, bind_eq_ok_iff]
    refine ⟨stream, rfl, ?_⟩
    rw [applySteps, applied]
    rfl

/-- A run yields what the stream behind all of its steps holds. -/
theorem run_eq_ok_iff (source : Source) (documents : List Document) :
    run source settings request = .ok documents ↔
      ∃ last, Reaches source settings request request.steps last ∧ last.documents = documents := by
  rw [run, bind_eq_ok_iff]
  constructor
  · rintro ⟨_, valid, went⟩
    obtain ⟨last, applied, ⟨⟩⟩ := bind_eq_ok_iff.1 went
    exact ⟨last, ⟨valid, List.prefix_rfl, applied⟩, rfl⟩
  · rintro ⟨last, reached, rfl⟩
    exact ⟨(), reached.valid, bind_eq_ok_iff.2 ⟨last, reached.applied, rfl⟩⟩

theorem Reaches.carries (reached : Reaches store.source settings request done stream) :
    Carries store.source request.database request.collection .unread done stream :=
  carries_applySteps reached.applied

/-- A stored stream holds rows of the collection that the request names, each at most once. -/
theorem Reaches.subperm_of_stored (reached : Reaches store.source settings request done stream)
    (isStored : stream.isStored = true) :
    ∃ content, store.collection request.database request.collection = .ok content ∧
      stream.documents.Subperm content.documents.values := by
  have carries := reached.carries
  rw [Stream.isStored_eq, Bool.and_eq_true, Bool.not_eq_true', carries.isDerived] at isStored
  obtain ⟨documents, brought, drawn⟩ := carries.handsOn isStored.1 isStored.2
  obtain ⟨snapshot, read, ⟨⟩⟩ := bind_eq_ok_iff.1 brought
  obtain ⟨content, found, ⟨⟩⟩ := bind_eq_ok_iff.1 read
  exact ⟨content, found, drawn⟩

end Points

/-- Rows of a sound collection have keys of their own. -/
theorem keys_of_subperm {content : Collection} (sound : content.Sound) {documents : List Document}
    (drawn : documents.Subperm content.documents.values) :
    documents.Pairwise (fun left right => left.key? ≠ right.key?) ∧
      ∀ document ∈ documents, ∃ key, document.key? = some key ∧
        content.documents.find? key = some document := by
  constructor
  · obtain ⟨inOrder, reordered, taken⟩ := drawn
    have different : content.documents.values.Pairwise fun left right =>
        left.key? ≠ right.key? := by
      refine (pairwise_values_of_sound sound).imp ?_
      rintro left right ⟨leftKey, rightKey, isLeft, isRight, before⟩ same
      rw [isLeft, isRight, Option.some.injEq] at same
      rw [same, Std.ReflOrd.compare_self] at before
      cases before
    exact (reordered.pairwise_iff fun unlike => unlike.symm).1 (different.sublist taken)
  · intro document member
    obtain ⟨key, atKey⟩ := (SortedMap.mem_values_iff ..).1 (drawn.subset member)
    exact ⟨key, sound.keyed key document atKey, atKey⟩

/-- At every point of every run a stored stream holds different documents of the collection that
the request names, each with a key of its own and as the store has it under that key. A step that
reshapes documents leaves the stream derived, which it then stays; any other step hands on documents
that it is given. -/
theorem reaches_exact {store : Store} (reachable : store.Reachable) (settings : Settings)
    (request : Request) :
    (∀ documents, run store.source settings request = .ok documents ↔
      ∃ last, Reaches store.source settings request request.steps last ∧
        last.documents = documents) ∧
      ∀ done stream, Reaches store.source settings request done stream →
        (stream.isStored = true →
          stream.documents.Pairwise (fun left right => left.key? ≠ right.key?) ∧
            ∀ document ∈ stream.documents, ∃ key, document.key? = some key ∧
              store.get? request.database request.collection key = .ok (some document)) ∧
        stream.hasDocuments = !done.isEmpty ∧
        stream.isDerived = done.any Step.reshapes ∧
        ∀ step next, done ++ [step] <+: request.steps →
          applyStep store.source settings request.database request.collection stream step =
            .ok next →
          Reaches store.source settings request (done ++ [step]) next ∧
            (stream.isDerived = true ∨ step.reshapes = true → next.isDerived = true) ∧
            (step.reshapes = false → ∃ documents,
              broughtIn store.source request.database request.collection stream =
                  .ok documents ∧
                next.documents.Subperm documents) := by
  refine ⟨run_eq_ok_iff store.source, ?_⟩
  intro done stream reached
  refine ⟨?_, reached.carries.isRead, reached.carries.isDerived, ?_⟩
  · intro isStored
    obtain ⟨content, found, drawn⟩ := reached.subperm_of_stored isStored
    obtain ⟨different, stored⟩ :=
      keys_of_subperm (reachable.sound _ _ content found) drawn
    refine ⟨different, ?_⟩
    intro document member
    obtain ⟨key, isKey, atKey⟩ := stored document member
    exact ⟨key, isKey, (Store.get?_eq_ok_some_iff ..).2 ⟨content, found, atKey⟩⟩
  · intro step next isFront applied
    have carries := carries_applyStep applied
    refine ⟨reached.step isFront applied, ?_, ?_⟩
    · rintro (wasDerived | reshapes)
      · rw [carries.isDerived, wasDerived, Bool.true_or]
      · rw [carries.isDerived, List.any_cons, reshapes, Bool.true_or, Bool.or_true]
    · intro keeps
      apply carries.handsOn
      · rw [carries.isRead]
        exact Bool.or_true _
      · rw [List.any_cons, keeps]
        rfl

private def fourTags : Store :=
  [.insert "d" "c" "k3" { fields := [("tag", .string "rust")] }, .createIndex "d" "c" "tag",
    .insert "d" "c" "k1" { fields := [("tag", .string "Rust")] }, .insert "d" "c" "k2" {},
    .insert "d" "c" "k0" { fields := [("tag", .string "RUST")] }].foldl Store.after Store.empty

private def tagIsRust : Step := .filter (.test ⟨"tag", .equals, .string "rust"⟩)

private def dropTag : Step := .map [.removeField "tag" none]

/-- The same filter before and behind a step that takes the indexed field away. -/
private def rustsUntagged : Request := ⟨"d", "c", [tagIsRust, .skip 1, dropTag, tagIsRust]⟩

theorem reaches_exact_filtered_again :
    fourTags.Reachable ∧ ∃ rusts untagged last,
      Reaches fourTags.source ⟨true, '-'⟩ rustsUntagged [tagIsRust, .skip 1] rusts ∧
        rusts.isStored = true ∧
        rusts.documents.map Document.key? = [some "k1", some "k3"] ∧
        rusts.documents.Pairwise (fun left right => left.key? ≠ right.key?) ∧
        Reaches fourTags.source ⟨true, '-'⟩ rustsUntagged [tagIsRust, .skip 1, dropTag] untagged ∧
        untagged.isDerived = true ∧
        run fourTags.source ⟨true, '-'⟩ rustsUntagged = .ok (Stream.documents last) ∧
        last.isDerived = true := by
  have reachable : fourTags.Reachable := Store.Reachable.empty.afterAll _
  obtain ⟨yields, points⟩ := reaches_exact reachable ⟨true, '-'⟩ rustsUntagged
  obtain ⟨rusts, isApplied, isStored, keys⟩ : ∃ rusts,
      applySteps fourTags.source ⟨true, '-'⟩ "d" "c" .unread [tagIsRust, .skip 1] = .ok rusts ∧
        rusts.isStored = true ∧
        rusts.documents.map Document.key? = [some "k1", some "k3"] :=
    ⟨_, rfl, rfl, by decide +kernel⟩
  have reached : Reaches fourTags.source ⟨true, '-'⟩ rustsUntagged [tagIsRust, .skip 1] rusts :=
    ⟨rfl, ⟨[dropTag, tagIsRust], rfl⟩, isApplied⟩
  obtain ⟨storedAt, -, -, goesOn⟩ := points _ _ reached
  cases rusts with
  | unread | derived documents => cases isStored
  | stored documents =>
      obtain ⟨reachedUntagged, nowDerived, -⟩ := goesOn dropTag _ ⟨[tagIsRust], rfl⟩ rfl
      obtain ⟨-, -, -, endsOn⟩ := points _ _ reachedUntagged
      obtain ⟨reachedLast, staysDerived, -⟩ := endsOn tagIsRust _ List.prefix_rfl rfl
      have isDerived := nowDerived (.inr rfl)
      refine ⟨reachable, _, _, _, reached, rfl, keys, (storedAt rfl).1, reachedUntagged, isDerived,
        (yields _).2 ⟨_, reachedLast, rfl⟩, staysDerived (.inl isDerived)⟩

end Query

end DocStore
