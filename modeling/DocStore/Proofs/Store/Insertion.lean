import DocStore.Proofs.Store.Soundness

/-!
Contract: what an insertion that succeeds changes.

One document is added under one key to one collection, which is created if it
is missing. Every other key, collection and database stays as it was.

Owns: the laws of `Store.insert` on success.
-/

namespace DocStore.Store

variable {store next : Store} {database collection fresh key : String} {document : Document}

theorem collection_putCollection_eq_ok_iff (store : Store) (database collection : String)
    (content : Collection) (otherDatabase otherCollection : String) (found : Collection) :
    (store.putCollection database collection content).collection otherDatabase otherCollection =
        .ok found ↔
      if otherDatabase = database ∧ otherCollection = collection then found = content
      else store.collection otherDatabase otherCollection = .ok found := by
  rw [collection_putCollection]
  split
  · rw [Except.ok.injEq]
    exact eq_comm
  · split
    next isNew =>
      refine iff_of_false (fun same => nomatch same) fun inStore => ?_
      rcases (collection_eq_ok_iff ..).1 inStore with ⟨collections, atDatabase, -⟩
      rw [isNew.1, isNew.2] at atDatabase
      cases atDatabase
    next => exact Iff.rfl

theorem collectionOrEmpty_putCollection (store : Store) (database collection : String)
    (content : Collection) :
    (store.putCollection database collection content).collectionOrEmpty database collection =
      content := by
  unfold collectionOrEmpty
  rw [collection_putCollection, if_pos ⟨rfl, rfl⟩]

theorem insert_eq_ok
    (inserted : store.insert database collection fresh document = (.ok key, next)) :
    ∃ grown, (store.collectionOrEmpty database collection).add fresh document = .ok (key, grown) ∧
      next = (store.createCollection database collection).putCollection database collection
        grown := by
  unfold insert createCollection at inserted
  simp only [collectionOrEmpty_putCollection] at inserted
  split at inserted
  next other grown added =>
    rcases Prod.mk.inj inserted with ⟨isKey, isNext⟩
    rw [Except.ok.inj isKey] at added
    exact ⟨grown, added, isNext.symm⟩
  next => cases (Prod.mk.inj inserted).1

theorem keyFor_of_insert
    (inserted : store.insert database collection fresh document = (.ok key, next)) :
    Collection.keyFor fresh document = .ok key := by
  rcases insert_eq_ok inserted with ⟨grown, added, -⟩
  exact ((Collection.add_eq_ok_iff ..).1 added).1

/-- Only the collection that a document is inserted into changes. -/
theorem collection_insert
    (inserted : store.insert database collection fresh document = (.ok key, next)) :
    ∃ grown, (store.collectionOrEmpty database collection).add fresh document = .ok (key, grown) ∧
      ∀ otherDatabase otherCollection content,
        next.collection otherDatabase otherCollection = .ok content ↔
          if otherDatabase = database ∧ otherCollection = collection then content = grown
          else store.collection otherDatabase otherCollection = .ok content := by
  rcases insert_eq_ok inserted with ⟨grown, added, isNext⟩
  refine ⟨grown, added, fun otherDatabase otherCollection content => ?_⟩
  rw [isNext, collection_putCollection_eq_ok_iff]
  split
  next => exact Iff.rfl
  next elsewhere =>
    unfold createCollection
    rw [collection_putCollection_eq_ok_iff, if_neg elsewhere]

theorem get?_eq_ok_some_iff (store : Store) (database collection key : String)
    (document : Document) :
    store.get? database collection key = .ok (some document) ↔
      ∃ content, store.collection database collection = .ok content ∧
        content.documents.find? key = some document := by
  unfold get?
  cases store.collection database collection with
  | error fault => simp [bind, Except.bind]
  | ok content => simp [bind, Except.bind]

/-- A collection that does not exist counts as one without documents. -/
theorem find?_collectionOrEmpty (store : Store) (database collection key : String)
    (document : Document) :
    (store.collectionOrEmpty database collection).documents.find? key = some document ↔
      store.get? database collection key = .ok (some document) := by
  rw [get?_eq_ok_some_iff]
  unfold collectionOrEmpty
  cases store.collection database collection with
  | error fault =>
      refine iff_of_false (fun found => nomatch found) ?_
      rintro ⟨content, found, -⟩
      cases found
  | ok content => simp

/-- The documents after an insertion are those before it and the one inserted. -/
theorem get?_insert
    (inserted : store.insert database collection fresh document = (.ok key, next))
    (otherDatabase otherCollection otherKey : String) (other : Document) :
    next.get? otherDatabase otherCollection otherKey = .ok (some other) ↔
      store.get? otherDatabase otherCollection otherKey = .ok (some other) ∨
        (otherDatabase = database ∧ otherCollection = collection) ∧
          otherKey = key ∧ other = document.withKey key := by
  rcases collection_insert inserted with ⟨grown, added, collections⟩
  rcases (Collection.add_eq_ok_iff ..).1 added with ⟨-, absent, isGrown⟩
  rw [get?_eq_ok_some_iff]
  simp only [collections]
  by_cases here : otherDatabase = database ∧ otherCollection = collection
  · rw [here.1, here.2]
    simp only [and_self, reduceIte, exists_eq_left, true_and]
    rw [isGrown]
    show (SortedMap.insert _ key (document.withKey key)).find? otherKey = some other ↔ _
    rw [SortedMap.find?_insert, ← find?_collectionOrEmpty]
    by_cases sameKey : otherKey = key
    · rw [if_pos sameKey, sameKey, absent, Option.some.injEq]
      simp [eq_comm]
    · rw [if_neg sameKey]
      simp [sameKey]
  · simp only [here, reduceIte, false_and, or_false]
    exact (get?_eq_ok_some_iff ..).symm

end DocStore.Store
