import DocStore.Proofs.Query.Selection

/-!
Contract: filtering a collection keeps what the predicate accepts.

Whichever way the first filter takes to its documents, scanning, set algebra
over a snapshot, or reading just the documents that indexes answer, it brings in
the accepted documents of the collection in key order. Settings and indexes make
no difference to that, and where the collection is missing every filter fails
alike.

Owns: the agreement of both evaluations on rows, the laws of `filterStream` and of
`documentsMeeting`.
-/

namespace DocStore

namespace Query

variable {store : Store} {database collection : String} {content : Collection}

/-- A stored document is let through exactly when its key is selected from the snapshot, whatever
keys the looked-up leaves hold. So the rows of a stored stream are filtered as the rows of the
snapshot are by set algebra. -/
theorem accepts_iff_selected {snapshot : Snapshot}
    (keyed : ∀ key document, snapshot.find? key = some document → document.key? = some key)
    (resolved : Resolved) :
    (∀ key document, snapshot.find? key = some document →
        (resolved.accepts document = true ↔
          (resolved.selected snapshot snapshot.keySet).contains key = true)) ∧
      (snapshot.values.filter fun document => resolved.accepts document) =
        (snapshot.filter fun key _ =>
          (resolved.selected snapshot snapshot.keySet).contains key).values ∧
      ∀ rows : List Document, (∀ row ∈ rows, row ∈ snapshot.values) →
        (rows.filter fun row => resolved.accepts row) =
          rows.filter fun row =>
            row.key?.any (resolved.selected snapshot snapshot.keySet).contains := by
  have same : ∀ key document, snapshot.find? key = some document →
      (resolved.selected snapshot snapshot.keySet).contains key = resolved.accepts document :=
    fun key document atKey =>
      Resolved.contains_selected_eq_accepts atKey (keyed key document atKey) resolved
  refine ⟨?_, (filter_values_of_selects same).symm, ?_⟩
  · intro key document atKey
    rw [same key document atKey]
  · intro rows stored
    apply List.filter_congr
    intro row member
    obtain ⟨key, atKey⟩ := (SortedMap.mem_values_iff ..).1 (stored row member)
    rw [keyed key row atKey, Option.any_some, same key row atKey]

private def paintings : Snapshot :=
  SortedMap.ofList [("k1", ⟨[("_id", .string "k1"), ("sold", .bool true)]⟩),
    ("k2", ⟨[("_id", .string "k2"), ("sold", .bool false)]⟩),
    ("k3", ⟨[("_id", .string "k3")]⟩)]

/-- Looked-up leaves with keys that no index would answer, two of them outside the snapshot,
under a negation, an exclusive-or and an empty conjunction. -/
private def strayAnswers : Resolved :=
  .join .nand [.indexed ⟨"sold", .equals, .bool false⟩ (KeySet.ofKeys ["k1", "k3", "k9"]),
    .join .xor [.scan ⟨"sold", .equals, .bool true⟩, .join .and [],
      .indexed ⟨"sold", .equals, .bool true⟩ (KeySet.ofKeys ["k0", "k3"])]]

theorem accepts_iff_selected_stray :
    (∀ key document, paintings.find? key = some document → document.key? = some key) ∧
      (paintings.filter fun key _ =>
        (strayAnswers.selected paintings paintings.keySet).contains key).values.map
          Document.key? = [some "k2"] := by
  have keyed : ∀ key document, paintings.find? key = some document →
      document.key? = some key := by
    intro key document atKey
    have eachKeyed : ∀ entry ∈ paintings.toList, entry.2.key? = some entry.1 := by decide
    exact eachKeyed (key, document) ((SortedMap.mem_toList_iff ..).2 atKey)
  refine ⟨keyed, ?_⟩
  rw [← (accepts_iff_selected keyed strayAnswers).2.1]
  decide +kernel

/-- On a sound collection the rows that are brought in are those that the predicate accepts. -/
theorem selectedDocuments_eq_ok (found : store.collection database collection = .ok content)
    (sound : content.Sound) {resolved : Resolved} (answers : resolved.Answers content.documents) :
    selectedDocuments store.source database collection resolved =
      .ok (content.documents.values.filter fun document =>
        resolved.predicate.accepts document) := by
  rw [selectedDocuments_eq_selected found]
  apply congrArg Except.ok
  apply filter_values_of_selects
  intro key document atKey
  exact Resolved.contains_selected atKey (sound.keyed key document atKey) resolved answers

/-! ## Streams -/

theorem filterStream_unread (found : store.collection database collection = .ok content)
    (sound : content.Sound) (settings : Settings) (predicate : Predicate) :
    filterStream store.source settings database collection predicate .unread =
      .ok (.stored (content.documents.values.filter fun document =>
        predicate.accepts document)) := by
  obtain ⟨resolved, isResolved, kept, answers⟩ :=
    Resolved.ofPredicate_answers found sound settings predicate
  rw [filterStream, isResolved, ← kept]
  simp only [bind, Except.bind]
  rw [selectedDocuments_eq_ok found sound answers]

/-- Index answers may be trusted for documents of the collection. -/
theorem filterStream_stored (found : store.collection database collection = .ok content)
    (sound : content.Sound) (settings : Settings) (predicate : Predicate)
    {documents : List Document}
    (stored : ∀ document ∈ documents, document ∈ content.documents.values) :
    filterStream store.source settings database collection predicate (.stored documents) =
      .ok (.stored (documents.filter fun document => predicate.accepts document)) := by
  obtain ⟨resolved, isResolved, kept, answers⟩ :=
    Resolved.ofPredicate_answers found sound settings predicate
  rw [filterStream, isResolved, ← kept]
  simp only [bind, Except.bind, Except.ok.injEq, Stream.stored.injEq]
  apply List.filter_congr
  intro document member
  obtain ⟨key, atKey⟩ := (SortedMap.mem_values_iff ..).1 (stored document member)
  exact Resolved.accepts_eq atKey (sound.keyed key document atKey) resolved answers

/-! ## Missing collections -/

section

variable {error : Error}

mutual

theorem ofPredicate_of_missing (missing : store.collection database collection = .error error)
    (settings : Settings) :
    ∀ wanted : Predicate,
      Resolved.ofPredicate store.source settings database collection wanted = .error error ∨
        ∃ resolved,
          Resolved.ofPredicate store.source settings database collection wanted = .ok resolved
  | .test leaf => by
      have noAnswer : store.source.indexLookup database collection leaf.field leaf.comparison
          leaf.literal = .error error := by
        simp only [Store.source, missing]
        rfl
      rw [Resolved.ofPredicate, Resolved.ofLeaf, noAnswer]
      by_cases usesIndexes : settings.usesIndexes = true
      · exact .inl (if_pos usesIndexes)
      · exact .inr ⟨_, if_neg usesIndexes⟩
  | .join connective operands => by
      rw [Resolved.ofPredicate]
      obtain failed | ⟨resolved, isResolved⟩ := ofPredicates_of_missing missing settings operands
      · exact .inl (by rw [failed])
      · exact .inr ⟨_, by rw [isResolved]⟩

theorem ofPredicates_of_missing (missing : store.collection database collection = .error error)
    (settings : Settings) :
    ∀ wanted : List Predicate,
      Resolved.ofPredicates store.source settings database collection wanted = .error error ∨
        ∃ resolved,
          Resolved.ofPredicates store.source settings database collection wanted = .ok resolved
  | [] => .inr ⟨[], rfl⟩
  | operand :: rest => by
      rw [Resolved.ofPredicates]
      obtain failed | ⟨resolved, isResolved⟩ := ofPredicate_of_missing missing settings operand
      · exact .inl (by rw [failed])
      · obtain failed | ⟨others, areOthers⟩ := ofPredicates_of_missing missing settings rest
        · exact .inl (by rw [isResolved, failed])
        · exact .inr ⟨_, by rw [isResolved, areOthers]⟩

end

theorem filterStream_unread_of_missing
    (missing : store.collection database collection = .error error) (settings : Settings)
    (predicate : Predicate) :
    filterStream store.source settings database collection predicate .unread = .error error := by
  rw [filterStream]
  obtain failed | ⟨resolved, isResolved⟩ := ofPredicate_of_missing missing settings predicate
  · rw [failed]
    rfl
  · rw [isResolved]
    simp only [bind, Except.bind]
    rw [selectedDocuments_eq_error missing]

end

/-! ## The documents of a collection that meet a predicate -/

theorem documentsMeeting_eq_map (sound : store.Every Collection.Sound) (settings : Settings)
    (database collection : String) (predicate : Predicate) :
    documentsMeeting store.source settings database collection predicate =
      (store.collection database collection).map fun content =>
        content.documents.values.filter fun document => predicate.accepts document := by
  unfold documentsMeeting
  cases found : store.collection database collection with
  | error error =>
      rw [filterStream_unread_of_missing found]
      rfl
  | ok content =>
      rw [filterStream_unread found (sound database collection content found)]
      rfl

/-- Collections with the same documents answer alike to predicates that accept alike. -/
theorem documentsMeeting_congr {other : Store} (sound : store.Every Collection.Sound)
    (otherSound : other.Every Collection.Sound)
    (same : (other.collection database collection).map Collection.documents =
      (store.collection database collection).map Collection.documents)
    {predicate otherPredicate : Predicate}
    (agree : ∀ document, otherPredicate.accepts document = predicate.accepts document)
    (settings otherSettings : Settings) :
    documentsMeeting other.source otherSettings database collection otherPredicate =
      documentsMeeting store.source settings database collection predicate := by
  have ofDocuments : ∀ (result : Except Error Collection) (wanted : Predicate),
      (result.map fun content =>
          content.documents.values.filter fun document => wanted.accepts document) =
        (result.map Collection.documents).map fun documents =>
          documents.values.filter fun document => wanted.accepts document := by
    intro result wanted
    cases result <;> rfl
  rw [documentsMeeting_eq_map sound, documentsMeeting_eq_map otherSound, ofDocuments, ofDocuments,
    same]
  simp only [agree]

/-- The documents that meet a predicate are the accepted ones of the whole collection, each once
and in key order, and a missing collection fails every predicate alike. Neither settings nor the
choice of indexed fields make a difference. -/
theorem documentsMeeting_exact {store : Store} (reachable : store.Reachable) (settings : Settings)
    (database collection : String) (predicate : Predicate) :
    (∀ content, store.collection database collection = .ok content →
      documentsMeeting store.source settings database collection predicate =
          .ok (content.documents.values.filter fun document => predicate.accepts document) ∧
        (content.documents.values.filter fun document => predicate.accepts document).Pairwise
          fun left right => ∃ leftKey rightKey, left.key? = some leftKey ∧
            right.key? = some rightKey ∧ compare leftKey rightKey = .lt) ∧
      (store.databases.find? database = none →
        documentsMeeting store.source settings database collection predicate =
          .error (.databaseNotFound database)) ∧
      (∀ collections, store.databases.find? database = some collections →
        collections.find? collection = none →
          documentsMeeting store.source settings database collection predicate =
            .error (.collectionNotFound database collection)) ∧
      ∀ (other : Store) (otherSettings : Settings), other.Reachable →
        (other.collection database collection).map Collection.documents =
            (store.collection database collection).map Collection.documents →
          documentsMeeting other.source otherSettings database collection predicate =
            documentsMeeting store.source settings database collection predicate := by
  have sound := reachable.sound
  refine ⟨?_, ?_, ?_, ?_⟩
  · intro content found
    rw [documentsMeeting_eq_map sound, found]
    exact ⟨rfl, (pairwise_values_of_sound (sound database collection content found)).filter _⟩
  · intro noDatabase
    rw [documentsMeeting_eq_map sound, Store.collection, Store.database, noDatabase]
    rfl
  · intro collections isDatabase noCollection
    rw [documentsMeeting_eq_map sound, Store.collection, Store.database, isDatabase]
    simp only [bind, Except.bind, noCollection]
    rfl
  · intro other otherSettings otherReachable same
    exact documentsMeeting_congr sound otherReachable.sound same (fun _ => rfl) settings
      otherSettings

private def threeTitles : Store :=
  [.insert "d" "c" "k2" { fields := [("title", .string "Rust")] },
    .createIndex "d" "c" "title",
    .insert "d" "c" "k3" { fields := [("done", .bool true), ("title", .string "rust")] },
    .insert "d" "c" "k1" { fields := [("done", .bool true)] }].foldl Store.after Store.empty

/-- An indexed leaf, a scanned leaf and an empty conjunction under a negation. -/
private def rustNotDone : Predicate :=
  .join .and [.test ⟨"title", .equals, .string "RUST"⟩,
    .join .nor [.test ⟨"done", .equals, .bool true⟩, .join .and []]]

theorem documentsMeeting_exact_mixed_leaves :
    threeTitles.Reachable ∧
      (documentsMeeting threeTitles.source ⟨true, '-'⟩ "d" "c" rustNotDone).map
        (·.map Document.key?) = .ok [some "k2"] := by
  have reachable : threeTitles.Reachable := Store.Reachable.empty.afterAll _
  obtain ⟨content, found⟩ : ∃ content, threeTitles.collection "d" "c" = .ok content := ⟨_, rfl⟩
  have exact := (documentsMeeting_exact reachable ⟨true, '-'⟩ "d" "c" rustNotDone).1 content found
  have accepted : (threeTitles.collection "d" "c").toOption.map (fun content =>
      (content.documents.values.filter fun document =>
        rustNotDone.accepts document).map Document.key?) = some [some "k2"] := by
    decide +kernel
  rw [found] at accepted
  rw [exact.1]
  exact ⟨reachable, congrArg Except.ok (Option.some.inj accepted)⟩

end Query

end DocStore
