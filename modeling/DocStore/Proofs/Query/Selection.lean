import DocStore.Query.Filtering
import DocStore.Proofs.Query.Resolution

/-!
Contract: a resolved predicate brings in the rows whose keys it selects.

A single leaf is scanned, a predicate that indexes decide alone is evaluated over
no documents at all, and any other one by set algebra over the whole collection.
All three ways end with the same rows: those whose keys are selected from the
whole collection, in key order. The second way loses nothing because a predicate
that needs no documents selects the same keys from every snapshot. None of this
depends on what keys the looked-up leaves hold.

Owns: the law of `selectedDocuments` and the order of rows.
-/

namespace DocStore

/-- Without need of documents the selection is the same whatever it is made from. -/
theorem Resolved.selected_congr_of_no_need {resolved : Resolved}
    (noNeed : resolved.needsDocuments = false) (snapshot other : Snapshot)
    (everything otherEverything : KeySet) :
    resolved.selected snapshot everything = resolved.selected other otherEverything := by
  rw [← resolved.selected_eq_of_no_need snapshot everything noNeed,
    ← resolved.selected_eq_of_no_need other otherEverything noNeed]

namespace Query

variable {store : Store} {database collection : String} {content : Collection}

/-! ## What a store answers -/

theorem snapshot_eq_ok (found : store.collection database collection = .ok content) :
    store.source.snapshot database collection = .ok content.documents := by
  simp only [Store.source, found]
  rfl

theorem documentsAt_eq_ok (found : store.collection database collection = .ok content)
    (keys : KeySet) :
    store.source.documentsAt database collection keys = .ok (content.documentsAt keys) := by
  simp only [Store.source, found]
  rfl

theorem snapshot_eq_error {error : Error}
    (missing : store.collection database collection = .error error) :
    store.source.snapshot database collection = .error error := by
  simp only [Store.source, missing]
  rfl

theorem documentsAt_eq_error {error : Error}
    (missing : store.collection database collection = .error error) (keys : KeySet) :
    store.source.documentsAt database collection keys = .error error := by
  simp only [Store.source, missing]
  rfl

/-! ## Rows in key order -/

theorem pairwise_values_of_sound (sound : content.Sound) :
    content.documents.values.Pairwise fun left right =>
      ∃ leftKey rightKey, left.key? = some leftKey ∧ right.key? = some rightKey ∧
        compare leftKey rightKey = .lt := by
  unfold SortedMap.values
  rw [List.pairwise_map]
  refine content.documents.sorted.imp_of_mem ?_
  rintro ⟨leftKey, left⟩ ⟨rightKey, right⟩ isLeft isRight before
  rw [← SortedMap.toList, SortedMap.mem_toList_iff] at isLeft isRight
  exact ⟨leftKey, rightKey, sound.keyed leftKey left isLeft, sound.keyed rightKey right isRight,
    before⟩

/-! ## Three ways to the rows -/

/-- Keeping the rows with certain keys is keeping those that a test accepts, if the keys are
chosen by it. -/
theorem filter_values_of_selects {documents : Snapshot} {keys : KeySet}
    {accepts : Document → Bool}
    (selects : ∀ key document, documents.find? key = some document →
      keys.contains key = accepts document) :
    (documents.filter fun key _ => keys.contains key).values =
      documents.values.filter accepts := by
  rw [← SortedMap.values_filter]
  congr 1
  apply SortedMap.ext
  intro key
  rw [SortedMap.find?_filter, SortedMap.find?_filter]
  cases atKey : documents.find? key with
  | none => rfl
  | some document => simp only [Option.filter, selects key document atKey]

/-- Whichever way they are brought in, the documents are the rows with the selected keys. -/
theorem selectedDocuments_eq_selected (found : store.collection database collection = .ok content)
    (resolved : Resolved) :
    selectedDocuments store.source database collection resolved =
      .ok (content.documents.filter fun key _ =>
        (resolved.selected content.documents (Snapshot.keySet content.documents)).contains
          key).values := by
  cases resolved with
  | scan leaf =>
      rw [selectedDocuments, snapshot_eq_ok found]
      apply congrArg Except.ok
      symm
      apply filter_values_of_selects
      intro key document atKey
      exact Resolved.contains_selected_scan atKey (Snapshot.keySet content.documents) leaf
  | indexed leaf keys | join connective operands =>
      rw [selectedDocuments, snapshot_eq_ok found, documentsAt_eq_ok found]
      · split
        next => rfl
        next noNeed =>
          rw [Resolved.selected_congr_of_no_need (by simpa using noNeed) SortedMap.empty
            content.documents SortedMap.empty (Snapshot.keySet content.documents),
            Collection.documentsAt, SortedMap.filterMap_find?_keys]
      · exact nofun

theorem selectedDocuments_eq_error {error : Error}
    (missing : store.collection database collection = .error error) (resolved : Resolved) :
    selectedDocuments store.source database collection resolved = .error error := by
  cases resolved <;>
    simp only [selectedDocuments, snapshot_eq_error missing, documentsAt_eq_error missing, bind,
      Except.bind] <;>
    split <;> rfl

/-- A resolved predicate that needs no documents selects the same keys from every snapshot. So the
documents that are brought in are always the rows of the collection whose keys are selected from
all of them, each once and in key order, and a missing collection fails. -/
theorem selectedDocuments_exact :
    (∀ resolved : Resolved, resolved.needsDocuments = false →
      ∀ (snapshot other : Snapshot) (everything otherEverything : KeySet),
        resolved.selected snapshot everything = resolved.selected other otherEverything) ∧
      ∀ (store : Store) (database collection : String) (resolved : Resolved), store.Reachable →
        (∀ content, store.collection database collection = .ok content →
          ∃ rows, selectedDocuments store.source database collection resolved = .ok rows ∧
            rows = (content.documents.filter fun key _ =>
              (resolved.selected content.documents
                (Snapshot.keySet content.documents)).contains key).values ∧
            rows.Pairwise fun left right => ∃ leftKey rightKey, left.key? = some leftKey ∧
              right.key? = some rightKey ∧ compare leftKey rightKey = .lt) ∧
          ∀ error, store.collection database collection = .error error →
            selectedDocuments store.source database collection resolved = .error error := by
  refine ⟨fun resolved => Resolved.selected_congr_of_no_need, ?_⟩
  intro store database collection resolved reachable
  refine ⟨?_, fun error missing => selectedDocuments_eq_error missing resolved⟩
  intro content found
  refine ⟨_, selectedDocuments_eq_selected found resolved, rfl, ?_⟩
  have sound := reachable.sound database collection content found
  exact (pairwise_values_of_sound sound).sublist (SortedMap.sublist_values_filter ..)

private def threeTasks : Store :=
  [.insert "d" "c" "k3" { fields := [("done", .bool true)] },
    .insert "d" "c" "k1" { fields := [("done", .bool false)] },
    .insert "d" "c" "k2" {}].foldl Store.after Store.empty

/-- Looked-up leaves alone, with keys under which nothing is stored. -/
private def keysAlone : Resolved :=
  .join .xor [.indexed ⟨"done", .equals, .bool true⟩ (KeySet.ofKeys ["k9", "k3", "k1"]),
    .join .or [.join .xor [], .indexed ⟨"done", .equals, .null⟩ (KeySet.ofKeys ["k2", "k1"])]]

/-- The same beside a scanned leaf, under a negation. -/
private def neither : Resolved :=
  .join .nor [.scan ⟨"done", .equals, .bool true⟩, keysAlone]

theorem selectedDocuments_exact_stray :
    threeTasks.Reachable ∧ keysAlone.needsDocuments = false ∧
      ∃ content, threeTasks.collection "d" "c" = .ok content ∧
        keysAlone.selected SortedMap.empty SortedMap.empty =
          keysAlone.selected content.documents (Snapshot.keySet content.documents) ∧
        [keysAlone, neither].map (fun resolved =>
          (selectedDocuments threeTasks.source "d" "c" resolved).map (·.map Document.key?)) =
            [.ok [some "k2", some "k3"], .ok [some "k1"]] := by
  have reachable : threeTasks.Reachable := Store.Reachable.empty.afterAll _
  obtain ⟨sameEverywhere, rowsOf⟩ := selectedDocuments_exact
  obtain ⟨content, found⟩ : ∃ content, threeTasks.collection "d" "c" = .ok content := ⟨_, rfl⟩
  refine ⟨reachable, rfl, content, found, sameEverywhere keysAlone rfl _ _ _ _, ?_⟩
  have selected : (threeTasks.collection "d" "c").toOption.map (fun content =>
      [keysAlone, neither].map fun resolved =>
        (content.documents.filter fun key _ =>
          (resolved.selected content.documents (Snapshot.keySet content.documents)).contains
            key).values.map Document.key?) =
      some [[some "k2", some "k3"], [some "k1"]] := by
    decide +kernel
  rw [found] at selected
  have selected := Option.some.inj selected
  simp only [List.map_cons, List.map_nil, List.cons.injEq, and_true] at selected ⊢
  obtain ⟨keysAloneRows, isSelected, areRows, _⟩ :=
    (rowsOf threeTasks "d" "c" keysAlone reachable).1 content found
  obtain ⟨neitherRows, isSelectedNeither, areNeitherRows, _⟩ :=
    (rowsOf threeTasks "d" "c" neither reachable).1 content found
  rw [isSelected, isSelectedNeither, areRows, areNeitherRows]
  exact ⟨congrArg Except.ok selected.1, congrArg Except.ok selected.2⟩

end Query

end DocStore
