import DocStore.Query.Pipeline
import DocStore.Proofs.Query.Selection
import DocStore.Proofs.Store.Insertion
import DocStore.Proofs.Text.ByteOrder

/-!
Contract: documents by key are the same read off the whole collection.

A store sorts the keys it is asked for and looks them up one by one; a source
without a reader of its own keeps the documents of the whole collection that
stand under one of the keys. Both come to the same list, in whatever order the
keys are handed over, and both fail alike where the collection is missing. So a
run that reads from either source has the same outcome.

Owns: `Collection.documentsListed` and the agreement of both readers.
-/

namespace DocStore

/-- The documents under listed keys. The listing is put in byte order first, and keys without a
document are passed over. -/
def Collection.documentsListed (content : Collection) (listing : List String) : List Document :=
  (listing.mergeSort fun left right => decide (Text.bytes left ≤ Text.bytes right)).filterMap
    content.documents.find?

namespace KeySet

/-- In whatever order the keys of a set are listed, sorting puts them in the order of the set. -/
theorem mergeSort_eq_keys {keys : KeySet} {listing : List String}
    (lists : listing.Perm keys.keys) :
    (listing.mergeSort fun left right => decide (Text.bytes left ≤ Text.bytes right)) =
      keys.keys := by
  have sorted : (listing.mergeSort fun left right =>
      decide (Text.bytes left ≤ Text.bytes right)).Pairwise
        fun left right => Text.bytes left ≤ Text.bytes right := by
    refine (List.pairwise_mergeSort ?_ ?_ listing).imp fun atMost => of_decide_eq_true atMost
    · intro first second third upper lower
      simp only [decide_eq_true_eq] at upper lower ⊢
      exact List.le_trans upper lower
    · intro left right
      simp only [Bool.or_eq_true, decide_eq_true_eq]
      exact List.le_total ..
  have inOrder : keys.keys.Pairwise fun left right => Text.bytes left ≤ Text.bytes right :=
    keys.keys_pairwise.imp fun before =>
      List.le_of_lt ((Text.compare_eq_lt_iff_bytes ..).1 before)
  refine List.Perm.eq_of_pairwise ?_ sorted inOrder ((List.mergeSort_perm ..).trans lists)
  intro left right _ _ upper lower
  exact Text.bytes_injective (List.le_antisymm upper lower)

end KeySet

theorem Collection.documentsListed_eq_documentsAt (content : Collection) {keys : KeySet}
    {listing : List String} (lists : listing.Perm keys.keys) :
    content.documentsListed listing = content.documentsAt keys := by
  rw [documentsListed, KeySet.mergeSort_eq_keys lists, documentsAt]

namespace Query

variable {store : Store} {database collection : String} {content : Collection}

/-- Both readers have the same outcome, errors included. -/
theorem documentsAt_eq_documentsInSnapshot (store : Store) (database collection : String)
    (keys : KeySet) :
    store.source.documentsAt database collection keys =
      store.source.documentsInSnapshot database collection keys := by
  unfold Source.documentsInSnapshot
  cases found : store.collection database collection with
  | ok content =>
      rw [documentsAt_eq_ok found, snapshot_eq_ok found, Collection.documentsAt,
        SortedMap.filterMap_find?_keys]
      rfl
  | error error =>
      rw [documentsAt_eq_error found, snapshot_eq_error found]
      rfl

/-- Without a reader of its own by keys, the source of a store is the same. -/
theorem readingSnapshots_source (store : Store) : store.source.readingSnapshots = store.source := by
  unfold Source.readingSnapshots
  have same : store.source.documentsInSnapshot = store.source.documentsAt := by
    funext database collection keys
    exact (documentsAt_eq_documentsInSnapshot store database collection keys).symm
  rw [same]

/-- The rows of a filtered collection stand in the byte order of their keys. -/
theorem pairwise_bytes_filter (sound : content.Sound) (keep : String → Document → Bool) :
    (content.documents.filter keep).values.Pairwise fun left right =>
      ∃ leftKey rightKey, left.key? = some leftKey ∧ right.key? = some rightKey ∧
        Text.bytes leftKey < Text.bytes rightKey := by
  refine ((pairwise_values_of_sound sound).sublist (SortedMap.sublist_values_filter ..)).imp ?_
  rintro left right ⟨leftKey, rightKey, isLeft, isRight, before⟩
  exact ⟨leftKey, rightKey, isLeft, isRight, (Text.compare_eq_lt_iff_bytes ..).1 before⟩

/-- Both readers have the same outcome for all keys: the documents that stand under the keys, each
once and in the byte order of keys however the keys are listed, or the error of a missing
collection. So every request runs alike on a source without a reader of its own. -/
theorem documentsAt_exact {store : Store} (reachable : store.Reachable) :
    (∀ (database collection : String) (keys : KeySet),
      store.source.documentsAt database collection keys =
          store.source.documentsInSnapshot database collection keys ∧
        (∀ content, store.collection database collection = .ok content →
          ∃ documents, store.source.documentsAt database collection keys = .ok documents ∧
            (∀ listing : List String, listing.Perm keys.keys →
              content.documentsListed listing = documents) ∧
            (∀ document, document ∈ documents ↔ ∃ key, keys.contains key = true ∧
              content.documents.find? key = some document) ∧
            documents.Pairwise fun left right => ∃ leftKey rightKey,
              left.key? = some leftKey ∧ right.key? = some rightKey ∧
                Text.bytes leftKey < Text.bytes rightKey) ∧
        ∀ error, store.collection database collection = .error error →
          store.source.documentsAt database collection keys = .error error) ∧
      ∀ (settings : Settings) (request : Request),
        run store.source.readingSnapshots settings request =
          run store.source settings request := by
  refine ⟨?_, fun settings request => by rw [readingSnapshots_source]⟩
  intro database collection keys
  refine ⟨documentsAt_eq_documentsInSnapshot store database collection keys, ?_,
    fun error missing => documentsAt_eq_error missing keys⟩
  intro content found
  refine ⟨content.documentsAt keys, documentsAt_eq_ok found keys,
    fun listing => content.documentsListed_eq_documentsAt, ?_, ?_⟩
  · intro document
    simp only [Collection.documentsAt, List.mem_filterMap, SortedMap.mem_keys_iff]
  · rw [Collection.documentsAt, SortedMap.filterMap_find?_keys]
    exact pairwise_bytes_filter (reachable.sound database collection content found) _

private def letters : Store :=
  [.insert "d" "c" "é" { fields := [("tag", .string "Rust")] }, .createIndex "d" "c" "tag",
    .insert "d" "c" "z" { fields := [("tag", .string "rust")] },
    .insert "d" "c" "a" {}].foldl Store.after Store.empty

private def someKeys : KeySet := KeySet.ofKeys ["a", "b", "é", "z"]

private def rusts : Request :=
  ⟨"d", "c", [.filter (.test ⟨"tag", .equals, .string "rust"⟩), .limit 3]⟩

/-- One of the keys has no document, and the listing is out of order. -/
theorem documentsAt_exact_listed :
    letters.Reachable ∧ ["z", "b", "é", "a"].Perm someKeys.keys ∧
      ∃ content documents, letters.collection "d" "c" = .ok content ∧
        letters.source.documentsAt "d" "c" someKeys = .ok documents ∧
        content.documentsListed ["z", "b", "é", "a"] = documents ∧
        documents.map Document.key? = [some "a", some "z", some "é"] ∧
        (run letters.source.readingSnapshots ⟨true, '-'⟩ rusts).toOption.map
          (·.map Document.key?) = some [some "z", some "é"] := by
  have reachable : letters.Reachable := Store.Reachable.empty.afterAll _
  have lists : ["z", "b", "é", "a"].Perm someKeys.keys := by decide +kernel
  obtain ⟨content, found⟩ : ∃ content, letters.collection "d" "c" = .ok content := ⟨_, rfl⟩
  obtain ⟨alike, runsAlike⟩ := documentsAt_exact reachable
  obtain ⟨sameOutcome, listed, -⟩ := alike "d" "c" someKeys
  obtain ⟨documents, brought, listedAnyhow, -⟩ := listed content found
  refine ⟨reachable, lists, content, documents, found, brought, listedAnyhow _ lists, ?_, ?_⟩
  · have keysInSnapshot : (letters.source.documentsInSnapshot "d" "c" someKeys).toOption.map
        (·.map Document.key?) = some [some "a", some "z", some "é"] := by
      decide +kernel
    rw [← sameOutcome, brought] at keysInSnapshot
    exact Option.some.inj keysInSnapshot
  · rw [runsAlike]
    decide +kernel

end Query

end DocStore
