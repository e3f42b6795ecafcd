import DocStore.Proofs.Store.Soundness
import DocStore.Proofs.Value.Normalised

/-!
Contract: stores with every document normalised.

Normalising a collection normalises its documents, counts them and builds its
indexes anew; names, keys, indexed fields and the number of documents stay.

Owns: `Collection.normalised`, `Store.normalised` and what they keep.
-/

namespace DocStore

namespace Document

/-- An ordered document has its key written in it already. -/
theorem withKey_of_key? {document : Document} {key : String}
    (sorted : Entries.Sorted document.fields) (isKey : document.key? = some key) :
    document.withKey key = document := by
  have present : Entries.find? keyField document.fields = some (.string key) := by
    unfold key? at isKey
    cases found : Entries.find? keyField document.fields with
    | none =>
        rw [found] at isKey
        cases isKey
    | some value =>
        rw [found] at isKey
        cases value with
        | string text =>
            cases isKey
            rfl
        | _ => cases isKey
  have same : Entries.insert keyField (.string key) document.fields = document.fields := by
    refine Entries.Sorted.ext (sorted.insert keyField (.string key)) sorted fun other => ?_
    by_cases isKeyField : other = keyField
    · rw [isKeyField, Entries.find?_insert_self, present]
    · exact Entries.find?_insert_of_ne isKeyField _ _
  unfold withKey
  rw [same]

theorem sorted_normalised {document : Document} (sorted : Entries.Sorted document.fields) :
    Entries.Sorted document.normalised.fields := by
  unfold normalised
  rw [Value.fieldsNormalised_eq_map]
  exact List.pairwise_map.2 sorted

/-- The key field is a path of one segment. -/
theorem get?_keyField (document : Document) :
    document.get? keyField = Entries.find? keyField document.fields := by
  have oneSegment : Path.segments keyField = [keyField] := by decide
  unfold get? Fields.get?
  rw [oneSegment]
  exact if_neg (by decide)

end Document

namespace Collection

theorem keyFor_of_key? {document : Document} {key : String} (isKey : document.key? = some key)
    (fresh : String) : keyFor fresh document = .ok key := by
  unfold Document.key? at isKey
  unfold keyFor
  rw [Document.get?_keyField]
  cases found : Entries.find? Document.keyField document.fields with
  | none =>
      rw [found] at isKey
      cases isKey
  | some value =>
      rw [found] at isKey
      cases value with
      | string text =>
          cases isKey
          rfl
      | _ => cases isKey

/-! ## Building indexes -/

theorem documents_buildIndexes (fields : List String) (content : Collection) :
    (fields.foldl buildIndex content).documents = content.documents ∧
      (fields.foldl buildIndex content).count = content.count := by
  induction fields generalizing content with
  | nil => exact ⟨rfl, rfl⟩
  | cons field rest inductionHypothesis => exact inductionHypothesis (content.buildIndex field)

theorem contains_buildIndexes (fields : List String) (content : Collection) (field : String) :
    (fields.foldl buildIndex content).indexes.contains field =
      (decide (field ∈ fields) || content.indexes.contains field) := by
  induction fields generalizing content with
  | nil => simp
  | cons first rest inductionHypothesis =>
      have built : (content.buildIndex first).indexes.contains field =
          (decide (field = first) || content.indexes.contains field) := by
        unfold buildIndex SortedMap.contains
        simp only [SortedMap.find?_insert]
        by_cases same : field = first <;> simp [same]
      rw [List.foldl_cons, inductionHypothesis, built]
      by_cases isFirst : field = first <;> simp [isFirst]

/-! ## Normalising -/

/-- A collection with its documents normalised, its indexes built over them anew. -/
def normalised (content : Collection) : Collection :=
  content.indexes.keys.foldl buildIndex
    ⟨content.documents.mapValues Document.normalised, SortedMap.empty, content.documents.size⟩

theorem documents_normalised (content : Collection) :
    content.normalised.documents = content.documents.mapValues Document.normalised :=
  (documents_buildIndexes ..).1

theorem count_normalised (content : Collection) :
    content.normalised.count = content.documents.size :=
  (documents_buildIndexes ..).2

theorem fields_normalised (content : Collection) :
    content.normalised.indexes.keys = content.indexes.keys := by
  apply SortedMap.keys_ext
  intro field
  unfold normalised
  rw [contains_buildIndexes]
  simp only [SortedMap.contains, SortedMap.find?_empty, Option.isSome_none, Bool.or_false]
  rw [Bool.eq_iff_iff, decide_eq_true_iff, SortedMap.mem_keys_iff]
  rfl

end Collection

namespace Store

/-- A store with all its collections normalised. -/
def normalised (store : Store) : Store :=
  ⟨store.databases.mapValues fun database => database.mapValues Collection.normalised⟩

theorem collection_normalised (store : Store) (database collection : String) :
    store.normalised.collection database collection =
      (store.collection database collection).map Collection.normalised := by
  unfold Store.collection Store.database normalised
  rw [SortedMap.find?_mapValues]
  cases store.databases.find? database with
  | none => rfl
  | some collections =>
      simp only [Option.map_some, bind, Except.bind, SortedMap.find?_mapValues]
      cases collections.find? collection <;> rfl

theorem databaseNames_normalised (store : Store) :
    store.normalised.databaseNames = store.databaseNames :=
  SortedMap.keys_mapValues ..

theorem collectionNames_normalised (store : Store) (database : String) :
    store.normalised.collectionNames database = store.collectionNames database := by
  unfold collectionNames Store.database normalised
  rw [SortedMap.find?_mapValues]
  cases store.databases.find? database with
  | none => rfl
  | some collections =>
      simp only [Option.map_some, bind, Except.bind, SortedMap.keys_mapValues]

theorem indexNames_normalised (store : Store) (database collection : String) :
    store.normalised.indexNames database collection = store.indexNames database collection := by
  unfold indexNames
  rw [collection_normalised]
  cases store.collection database collection with
  | error fault => rfl
  | ok content =>
      simp only [Except.map, bind, Except.bind, Collection.fields_normalised]

theorem get?_normalised (store : Store) (database collection key : String) :
    store.normalised.get? database collection key =
      (store.get? database collection key).map (Option.map Document.normalised) := by
  unfold get?
  rw [collection_normalised]
  cases store.collection database collection with
  | error fault => rfl
  | ok content =>
      simp only [Except.map, bind, Except.bind, Collection.documents_normalised,
        SortedMap.find?_mapValues]

theorem get?_normalised_eq_ok_some_iff (store : Store) (database collection key : String)
    (document : Document) :
    store.normalised.get? database collection key = .ok (some document) ↔
      ∃ stored, document = stored.normalised ∧
        store.get? database collection key = .ok (some stored) := by
  rw [get?_normalised]
  constructor
  · intro found
    cases before : store.get? database collection key with
    | error fault =>
        rw [before] at found
        cases found
    | ok present =>
        rw [before] at found
        rcases Option.map_eq_some_iff.1 (Except.ok.inj found) with ⟨stored, isStored, isDocument⟩
        rw [isStored]
        exact ⟨stored, isDocument.symm, rfl⟩
  · rintro ⟨stored, isDocument, found⟩
    rw [found, isDocument]
    rfl

end Store

end DocStore
