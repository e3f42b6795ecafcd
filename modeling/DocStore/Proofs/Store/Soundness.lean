import DocStore.Proofs.Index.Upkeep
import DocStore.Proofs.Store.Reachability

/-!
Contract: collections in which documents, indexes and count agree.

A collection is sound when every document stands under its own key, the count
is the number of documents, and every index is the one that building anew over
the documents would give. No change of a collection loses soundness, so every
collection of every reachable store is sound, and what a history leaves of a
collection is determined by its documents and its indexed fields.

Owns: `Collection.Sound`, its closure under changes and what follows from it.
-/

namespace DocStore

namespace Collection

/-- Documents, indexes and count of a collection agree. -/
structure Sound (content : Collection) : Prop where
  keyed : ∀ key document, content.documents.find? key = some document →
    document.key? = some key
  counted : content.count = content.documents.size
  indexed : ∀ field index, content.indexes.find? field = some index →
    index = Index.build field content.documents.values

theorem key?_withKey (document : Document) (key : String) :
    (document.withKey key).key? = some key := by
  unfold Document.key? Document.withKey
  rw [Entries.find?_insert_self]
  rfl

theorem add_eq_ok_iff (content : Collection) (fresh : String) (document : Document)
    (key : String) (next : Collection) :
    content.add fresh document = .ok (key, next) ↔
      keyFor fresh document = .ok key ∧ content.documents.find? key = none ∧
        next =
          { documents := content.documents.insert key (document.withKey key)
            indexes := content.indexes.mapValues fun index => index.insert (document.withKey key)
            count := content.count + 1 } := by
  unfold add
  cases keyFor fresh document with
  | error fault => simp [bind, Except.bind]
  | ok found =>
      simp only [bind, Except.bind, Except.ok.injEq]
      by_cases taken : content.documents.contains found = true
      · rw [if_pos taken]
        simp only [reduceCtorEq, false_iff]
        rintro ⟨rfl, absent, _⟩
        rw [SortedMap.contains, absent] at taken
        cases taken
      · have absent : content.documents.find? found = none := by
          simpa [SortedMap.contains] using taken
        rw [if_neg taken]
        simp only [Except.ok.injEq, Prod.mk.injEq]
        constructor
        · rintro ⟨rfl, rfl⟩
          exact ⟨rfl, absent, rfl⟩
        · rintro ⟨rfl, _, rfl⟩
          exact ⟨rfl, rfl⟩

theorem take_eq_some_iff (content : Collection) (key : String) (left : Collection) :
    content.take key = some left ↔
      ∃ document, content.documents.find? key = some document ∧
        left =
          { documents := content.documents.erase key
            indexes := content.indexes.mapValues fun index => index.remove document
            count := content.count - 1 } := by
  unfold take
  rw [Option.map_eq_some_iff]
  exact exists_congr fun document => and_congr_right fun _ => eq_comm

/-! ## Changes -/

theorem sound_empty : empty.Sound where
  keyed := by
    intro key document atKey
    cases atKey
  counted := rfl
  indexed := by
    intro field index atField
    cases atField

theorem Sound.answersFor {content : Collection} (sound : content.Sound) {field : String}
    {index : Index} (atField : content.indexes.find? field = some index) :
    index.AnswersFor fun document => document ∈ content.documents.values := by
  rw [sound.indexed field index atField]
  exact Index.answersFor_build field content.documents.values

theorem Sound.field_eq {content : Collection} (sound : content.Sound) {field : String}
    {index : Index} (atField : content.indexes.find? field = some index) :
    index.field = field := by
  rw [sound.indexed field index atField, Index.field_build]

theorem Sound.add {content next : Collection} (sound : content.Sound) {fresh key : String}
    {document : Document} (added : content.add fresh document = .ok (key, next)) :
    next.Sound := by
  rw [add_eq_ok_iff] at added
  obtain ⟨_, absent, rfl⟩ := added
  refine ⟨?_, ?_, ?_⟩
  · intro other found atOther
    simp only [SortedMap.find?_insert] at atOther
    split at atOther
    next same =>
      cases atOther
      rw [same]
      exact key?_withKey document key
    next => exact sound.keyed other found atOther
  · rw [SortedMap.size_insert_of_absent _ _ absent, sound.counted]
  · intro field index atField
    simp only [SortedMap.find?_mapValues, Option.map_eq_some_iff] at atField
    obtain ⟨before, atBefore, rfl⟩ := atField
    refine Index.AnswersFor.unique ?_ ((sound.answersFor atBefore).insert _)
      ((Index.answersFor_build field _).congr ?_)
    · rw [Index.field_insert, sound.field_eq atBefore, Index.field_build]
    · -- The documents of the new map are the added one and those that were there.
      intro other
      rw [SortedMap.mem_values_iff, SortedMap.mem_values_iff]
      constructor
      · rintro ⟨otherKey, atOther⟩
        rw [SortedMap.find?_insert] at atOther
        split at atOther
        · exact .inl (Option.some.inj atOther).symm
        · exact .inr ⟨otherKey, atOther⟩
      · rintro (rfl | ⟨otherKey, atOther⟩)
        · exact ⟨key, SortedMap.find?_insert_self ..⟩
        · refine ⟨otherKey, ?_⟩
          rw [SortedMap.find?_insert_of_ne, atOther]
          intro same
          rw [same, absent] at atOther
          cases atOther

theorem Sound.take {content left : Collection} (sound : content.Sound) {key : String}
    (taken : content.take key = some left) : left.Sound := by
  rw [take_eq_some_iff] at taken
  obtain ⟨document, atKey, rfl⟩ := taken
  have isKey := sound.keyed key document atKey
  refine ⟨?_, ?_, ?_⟩
  · intro other found atOther
    simp only [SortedMap.find?_erase] at atOther
    split at atOther
    · cases atOther
    · exact sound.keyed other found atOther
  · have size := content.documents.size_erase_of_present atKey
    have counted := sound.counted
    simp only
    omega
  · intro field index atField
    simp only [SortedMap.find?_mapValues, Option.map_eq_some_iff] at atField
    obtain ⟨before, atBefore, rfl⟩ := atField
    -- Keys are distinct, so no other document has the entry that is taken off.
    have alone : ∀ other ∈ content.documents.values, other.key? = document.key? →
        other = document := by
      intro other member sameKey
      obtain ⟨otherKey, atOther⟩ := (SortedMap.mem_values_iff ..).1 member
      rw [sound.keyed otherKey other atOther, isKey, Option.some.injEq] at sameKey
      rw [sameKey, atKey] at atOther
      exact (Option.some.inj atOther).symm
    refine Index.AnswersFor.unique ?_ ((sound.answersFor atBefore).remove document alone)
      ((Index.answersFor_build field _).congr ?_)
    · rw [Index.field_remove, sound.field_eq atBefore, Index.field_build]
    · intro other
      rw [SortedMap.mem_values_iff, SortedMap.mem_values_iff]
      constructor
      · rintro ⟨otherKey, atOther⟩
        rw [SortedMap.find?_erase] at atOther
        split at atOther
        · cases atOther
        next different =>
          refine ⟨⟨otherKey, atOther⟩, ?_⟩
          intro same
          rw [same] at atOther
          have sameKey := sound.keyed otherKey document atOther
          rw [isKey, Option.some.injEq] at sameKey
          exact different sameKey.symm
      · rintro ⟨⟨otherKey, atOther⟩, different⟩
        refine ⟨otherKey, ?_⟩
        rw [SortedMap.find?_erase_of_ne, atOther]
        intro same
        rw [same, atKey] at atOther
        exact different (Option.some.inj atOther).symm

theorem Sound.buildIndex {content : Collection} (sound : content.Sound) (field : String) :
    (content.buildIndex field).Sound where
  keyed := sound.keyed
  counted := sound.counted
  indexed := by
    intro other index atField
    simp only [Collection.buildIndex, SortedMap.find?_insert] at atField
    split at atField
    next same =>
      cases atField
      rw [same]
      rfl
    next => exact sound.indexed other index atField

theorem Sound.dropIndex {content : Collection} (sound : content.Sound) (field : String) :
    Sound { content with indexes := content.indexes.erase field } where
  keyed := sound.keyed
  counted := sound.counted
  indexed := by
    intro other index atField
    simp only [SortedMap.find?_erase] at atField
    split at atField
    · cases atField
    · exact sound.indexed other index atField

theorem closed_sound : Closed Sound where
  empty := sound_empty
  add := fun _ sound added => sound.add added
  take := fun sound taken => sound.take taken
  buildIndex := fun field sound => sound.buildIndex field
  dropIndex := fun field sound => sound.dropIndex field

/-- Every document of a collection has its fields in order. -/
def Ordered (content : Collection) : Prop :=
  ∀ key document, content.documents.find? key = some document → document.isOrdered = true

theorem closed_ordered : Closed Ordered where
  empty := by
    intro key document found
    cases found
  add := by
    intro content next fresh key document ordered added
    obtain ⟨-, -, rfl⟩ := (add_eq_ok_iff ..).1 added
    intro other found atOther
    simp only [SortedMap.find?_insert] at atOther
    split at atOther
    · cases atOther
      exact document.isOrdered_withKey key
    · exact ordered other found atOther
  take := by
    intro content left key ordered taken
    obtain ⟨document, -, rfl⟩ := (take_eq_some_iff ..).1 taken
    intro other found atOther
    simp only [SortedMap.find?_erase] at atOther
    split at atOther
    · cases atOther
    · exact ordered other found atOther
  buildIndex := fun _ ordered => ordered
  dropIndex := fun _ ordered => ordered

/-! ## What soundness determines -/

/-- The count of a sound collection follows a removal without stopping at zero. -/
theorem Sound.count_take {content left : Collection} (sound : content.Sound) {key : String}
    (taken : content.take key = some left) : left.count + 1 = content.count := by
  have leftCounted := (sound.take taken).counted
  rw [take_eq_some_iff] at taken
  obtain ⟨document, atKey, rfl⟩ := taken
  have size := content.documents.size_erase_of_present atKey
  rw [leftCounted, sound.counted, ← size]

/-- Sound collections with the same documents and the same indexed fields are the same. -/
theorem Sound.unique {left right : Collection} (leftSound : left.Sound)
    (rightSound : right.Sound) (sameDocuments : left.documents = right.documents)
    (sameFields : left.indexes.keys = right.indexes.keys) : left = right := by
  have sameCount : left.count = right.count := by
    rw [leftSound.counted, rightSound.counted, sameDocuments]
  have sameIndexes : left.indexes = right.indexes := by
    apply SortedMap.ext
    intro field
    have present : left.indexes.contains field = right.indexes.contains field := by
      rw [Bool.eq_iff_iff, ← SortedMap.mem_keys_iff, ← SortedMap.mem_keys_iff, sameFields]
    unfold SortedMap.contains at present
    cases atLeft : left.indexes.find? field with
    | none =>
        cases atRight : right.indexes.find? field with
        | none => rfl
        | some index => simp [atLeft, atRight] at present
    | some index =>
        cases atRight : right.indexes.find? field with
        | none => simp [atLeft, atRight] at present
        | some other =>
            rw [leftSound.indexed field index atLeft, rightSound.indexed field other atRight,
              sameDocuments]
  cases left
  cases right
  simp only at sameDocuments sameIndexes sameCount
  rw [sameDocuments, sameIndexes, sameCount]

end Collection

namespace Store

theorem Reachable.sound {store : Store} (reachable : store.Reachable) :
    store.Every Collection.Sound :=
  reachable.every Collection.closed_sound

theorem Reachable.ordered {store : Store} (reachable : store.Reachable) :
    store.Every Collection.Ordered :=
  reachable.every Collection.closed_ordered

/-- In every collection of every reachable store documents stand under their own keys, the count
is their number and never stops at zero, and indexes are as built anew; so the documents and the
indexed fields that a history leaves determine the collection. -/
theorem Reachable.collection_consistent {store : Store} (reachable : store.Reachable)
    {database collection : String} {content : Collection}
    (found : store.collection database collection = .ok content) :
    (∀ key document, content.documents.find? key = some document → document.key? = some key) ∧
      content.count = content.documents.size ∧
      (∀ field index, content.indexes.find? field = some index →
        index = Index.build field content.documents.values ∧
          ∀ indexKey keys, index.entries.find? indexKey = some keys → keys.isEmpty = false) ∧
      (∀ key left, content.take key = some left → left.count + 1 = content.count) ∧
      ∀ (other : Store) (otherDatabase otherCollection : String) (otherContent : Collection),
        other.Reachable → other.collection otherDatabase otherCollection = .ok otherContent →
          content.documents = otherContent.documents →
          content.indexes.keys = otherContent.indexes.keys → content = otherContent := by
  have sound := reachable.sound database collection content found
  refine ⟨sound.keyed, sound.counted, ?_, fun key left => sound.count_take, ?_⟩
  · intro field index atField
    exact ⟨sound.indexed field index atField, (sound.answersFor atField).occupied⟩
  · intro other otherDatabase otherCollection otherContent otherReachable otherFound
    exact sound.unique (otherReachable.sound otherDatabase otherCollection otherContent otherFound)

private def zeroAt : OrderedDocument := { fields := [("a", .number .zero)] }

private def negativeZeroAt : OrderedDocument :=
  { fields := [("a", .number (.finite true ⟨0, Number.gridSize_pos⟩))] }

private def indexedLast : Store :=
  [.insert "d" "c" "x" zeroAt, .insert "d" "c" "y" negativeZeroAt, .delete "d" "c" "x",
    .createIndex "d" "c" "a"].foldl after empty

private def indexedFirst : Store :=
  [.createCollection "d" "c", .createIndex "d" "c" "a", .insert "d" "c" "y" negativeZeroAt,
    .delete "d" "c" "x"].foldl after empty

/-- Indexing before or after the writes leaves one and the same collection. -/
theorem collection_consistent_indexed_first_or_last :
    indexedLast.Reachable ∧ indexedFirst.Reachable ∧
      ∃ content, indexedLast.collection "d" "c" = .ok content ∧ content.count = 1 ∧
        indexedFirst.collection "d" "c" = .ok content := by
  have lastReachable : indexedLast.Reachable := Reachable.empty.afterAll _
  have firstReachable : indexedFirst.Reachable := Reachable.empty.afterAll _
  obtain ⟨content, found⟩ : ∃ content, indexedLast.collection "d" "c" = .ok content := ⟨_, rfl⟩
  obtain ⟨other, otherFound⟩ : ∃ other, indexedFirst.collection "d" "c" = .ok other := ⟨_, rfl⟩
  have sameDocuments : (indexedLast.collection "d" "c").toOption.map (·.documents) =
      (indexedFirst.collection "d" "c").toOption.map (·.documents) := rfl
  have sameFields : (indexedLast.collection "d" "c").toOption.map (·.indexes.keys) =
      (indexedFirst.collection "d" "c").toOption.map (·.indexes.keys) := by decide +kernel
  have counted : (indexedLast.collection "d" "c").toOption.map (·.count) = some 1 := by
    decide +kernel
  rw [found] at sameDocuments sameFields counted
  rw [otherFound] at sameDocuments sameFields
  obtain ⟨_, _, _, _, unique⟩ := lastReachable.collection_consistent found
  have same : content = other :=
    unique indexedFirst "d" "c" other firstReachable otherFound
      (Option.some.inj sameDocuments) (Option.some.inj sameFields)
  exact ⟨lastReachable, firstReachable, content, found, Option.some.inj counted, same ▸ otherFound⟩

end Store

end DocStore
