import DocStore.DataDirectory.Loading
import DocStore.Proofs.Value.Ordered

/-!
Contract: the stores that a history of operations leads to.

A history begins with the empty store or with a store that was opened, and goes
on by operations on the catalogue, on documents and on indexes. An operation
that fails leaves what it had done until then, and later operations go on from
there. The documents handed in are maps, so their fields come in key order.

A property of collections that holds of the empty one and that every change of
a collection keeps holds of every collection of every reachable store.

Owns: `Store.Operation`, `Store.after`, `Store.Reachable` and that induction.
-/

namespace DocStore

namespace Store

/-- What can be asked of a store to change it. Fresh keys come with the request. -/
inductive Operation where
  | createDatabase (database : String)
  | createCollection (database collection : String)
  | dropCollection (database collection : String)
  | insert (database collection fresh : String) (document : OrderedDocument)
  | insertMany (database collection : String) (fresh : Nat → String)
      (documents : List OrderedDocument)
  | delete (database collection key : String)
  | createIndex (database collection field : String)
  | dropIndex (database collection field : String)

/-- The store that an operation leaves, whether it succeeds or not. -/
def after (store : Store) : Operation → Store
  | .createDatabase database => store.createDatabase database
  | .createCollection database collection => store.createCollection database collection
  | .dropCollection database collection =>
      match store.dropCollection database collection with
      | .ok (_, left) => left
      | .error _ => store
  | .insert database collection fresh document =>
      (store.insert database collection fresh document).2
  | .insertMany database collection fresh documents =>
      (store.insertMany database collection fresh (documents.map OrderedDocument.toDocument)).2
  | .delete database collection key =>
      match store.delete database collection key with
      | .ok (_, left) => left
      | .error _ => store
  | .createIndex database collection field =>
      match store.createIndex database collection field with
      | .ok left => left
      | .error _ => store
  | .dropIndex database collection field =>
      match store.dropIndex database collection field with
      | .ok (_, left) => left
      | .error _ => store

/-- The stores that histories lead to. -/
inductive Reachable : Store → Prop
  | empty : Reachable Store.empty
  | opened [NumeralReader] {disk : Disk} {root : Location} {store : Store}
      (loaded : DataDirectory.load disk root = .ok store) : Reachable store
  | operated {store : Store} (reachable : Reachable store) (operation : Operation) :
      Reachable (store.after operation)

theorem Reachable.afterAll {store : Store} (reachable : store.Reachable)
    (operations : List Operation) : (operations.foldl after store).Reachable := by
  induction operations generalizing store with
  | nil => exact reachable
  | cons operation rest inductionHypothesis =>
      exact inductionHypothesis (reachable.operated operation)

/-- Every collection of a store has a property. -/
def Every (holds : Collection → Prop) (store : Store) : Prop :=
  ∀ database collection content, store.collection database collection = .ok content →
    holds content

end Store

/-- A property of collections that no change of a collection loses. -/
structure Collection.Closed (holds : Collection → Prop) : Prop where
  empty : holds Collection.empty
  add : ∀ {content next : Collection} {fresh key : String} (document : OrderedDocument),
    holds content → content.add fresh document = .ok (key, next) → holds next
  take : ∀ {content left : Collection} {key : String},
    holds content → content.take key = some left → holds left
  buildIndex : ∀ {content : Collection} (field : String),
    holds content → holds (content.buildIndex field)
  dropIndex : ∀ {content : Collection} (field : String),
    holds content → holds { content with indexes := content.indexes.erase field }

namespace Store

/-! ## Looking collections up -/

theorem collection_eq_ok_iff (store : Store) (database collection : String)
    (content : Collection) :
    store.collection database collection = .ok content ↔
      ∃ collections, store.databases.find? database = some collections ∧
        collections.find? collection = some content := by
  unfold Store.collection Store.database
  cases atDatabase : store.databases.find? database with
  | none => simp [bind, Except.bind]
  | some collections =>
      cases atCollection : collections.find? collection <;>
        simp [bind, Except.bind, atCollection]

theorem collection_putCollection (store : Store) (database collection : String)
    (content : Collection) (otherDatabase otherCollection : String) :
    (store.putCollection database collection content).collection otherDatabase otherCollection =
      if otherDatabase = database ∧ otherCollection = collection then .ok content
      else if otherDatabase = database ∧ store.databases.find? database = none then
        .error (.collectionNotFound otherDatabase otherCollection)
      else store.collection otherDatabase otherCollection := by
  unfold Store.collection Store.database putCollection
  by_cases sameDatabase : otherDatabase = database
  · subst sameDatabase
    simp only [SortedMap.find?_insert_self, bind, Except.bind, true_and]
    by_cases sameCollection : otherCollection = collection
    · subst sameCollection
      simp [SortedMap.find?_insert_self]
    · rw [SortedMap.find?_insert_of_ne _ sameCollection, if_neg sameCollection]
      cases atDatabase : store.databases.find? otherDatabase <;> simp
  · rw [SortedMap.find?_insert_of_ne _ sameDatabase, if_neg (fun both => sameDatabase both.1),
      if_neg (fun both => sameDatabase both.1)]

section Closure

variable {holds : Collection → Prop} {store : Store}

theorem every_putCollection (every : store.Every holds) (database collection : String)
    {content : Collection} (good : holds content) :
    (store.putCollection database collection content).Every holds := by
  intro otherDatabase otherCollection found atPlace
  rw [collection_putCollection] at atPlace
  split at atPlace
  · cases atPlace
    exact good
  · split at atPlace
    · cases atPlace
    · exact every _ _ _ atPlace

theorem holds_collectionOrEmpty (closed : Collection.Closed holds) (every : store.Every holds)
    (database collection : String) : holds (store.collectionOrEmpty database collection) := by
  unfold collectionOrEmpty
  cases atPlace : store.collection database collection with
  | ok content => exact every _ _ _ atPlace
  | error fault => exact closed.empty

theorem every_createDatabase (every : store.Every holds) (database : String) :
    (store.createDatabase database).Every holds := by
  intro otherDatabase otherCollection content atPlace
  unfold createDatabase at atPlace
  split at atPlace
  · exact every _ _ _ atPlace
  · rw [collection_eq_ok_iff] at atPlace
    obtain ⟨collections, atDatabase, atCollection⟩ := atPlace
    rw [SortedMap.find?_insert] at atDatabase
    split at atDatabase
    · cases atDatabase
      cases atCollection
    · exact every _ _ _ ((collection_eq_ok_iff ..).2 ⟨collections, atDatabase, atCollection⟩)

theorem every_dropCollection (every : store.Every holds) {database collection : String}
    {existed : Bool} {left : Store}
    (dropped : store.dropCollection database collection = .ok (existed, left)) :
    left.Every holds := by
  unfold dropCollection Store.database at dropped
  cases atDatabase : store.databases.find? database with
  | none =>
      rw [atDatabase] at dropped
      cases dropped
  | some collections =>
      rw [atDatabase] at dropped
      cases dropped
      intro otherDatabase otherCollection content atPlace
      rw [collection_eq_ok_iff] at atPlace
      obtain ⟨found, atOther, atCollection⟩ := atPlace
      simp only [SortedMap.find?_insert] at atOther
      split at atOther
      next sameDatabase =>
        cases atOther
        rw [SortedMap.find?_erase] at atCollection
        split at atCollection
        · cases atCollection
        · exact every _ _ _ ((collection_eq_ok_iff ..).2 ⟨collections, atDatabase, atCollection⟩)
      next =>
        exact every _ _ _ ((collection_eq_ok_iff ..).2 ⟨found, atOther, atCollection⟩)

theorem holds_addAll (closed : Collection.Closed holds) (documents : List OrderedDocument) :
    ∀ {content : Collection} (fresh : Nat → String), holds content →
      holds (addAll content fresh (documents.map OrderedDocument.toDocument)).2 := by
  induction documents with
  | nil => exact fun _ good => good
  | cons document rest inductionHypothesis =>
      intro content fresh good
      simp only [List.map_cons, addAll]
      cases added : content.add (fresh 0) document with
      | error fault => exact good
      | ok result =>
          obtain ⟨key, next⟩ := result
          have restGood := inductionHypothesis (fun position => fresh (position + 1))
            (closed.add document good added)
          dsimp only
          split
          next final same => rw [same] at restGood; exact restGood
          next fault final same => rw [same] at restGood; exact restGood

theorem every_after (closed : Collection.Closed holds) (every : store.Every holds)
    (operation : Operation) : (store.after operation).Every holds := by
  cases operation with
  | createDatabase database => exact every_createDatabase every database
  | createCollection database collection =>
      exact every_putCollection every _ _ (holds_collectionOrEmpty closed every _ _)
  | dropCollection database collection =>
      simp only [after]
      split
      next dropped => exact every_dropCollection every dropped
      next => exact every
  | insert database collection fresh document =>
      have created : (store.createCollection database collection).Every holds :=
        every_putCollection every _ _ (holds_collectionOrEmpty closed every _ _)
      simp only [after, Store.insert]
      split
      next added =>
        apply every_putCollection created
        exact closed.add document (holds_collectionOrEmpty closed created _ _) added
      next => exact created
  | insertMany database collection fresh documents =>
      exact every_putCollection every _ _
        (holds_addAll closed documents fresh (holds_collectionOrEmpty closed every _ _))
  | delete database collection key =>
      simp only [after, Store.delete]
      cases atPlace : store.collection database collection with
      | error fault => exact every
      | ok content =>
          simp only [bind, Except.bind]
          cases taken : content.take key with
          | none => exact every
          | some left =>
              exact every_putCollection every _ _ (closed.take (every _ _ _ atPlace) taken)
  | createIndex database collection field =>
      simp only [after, Store.createIndex]
      split
      next left created =>
        split at created
        · cases created
        · cases atPlace : store.collection database collection with
          | error fault =>
              rw [atPlace] at created
              cases created
          | ok content =>
              rw [atPlace] at created
              cases created
              exact every_putCollection every _ _ (closed.buildIndex field (every _ _ _ atPlace))
      next => exact every
  | dropIndex database collection field =>
      simp only [after, Store.dropIndex]
      cases atPlace : store.collection database collection with
      | error fault => exact every
      | ok content =>
          exact every_putCollection every _ _ (closed.dropIndex field (every _ _ _ atPlace))

end Closure

end Store

/-! ## Opened stores -/

namespace DataDirectory

variable {holds : Collection → Prop}

theorem holds_addEach (closed : Collection.Closed holds) (items : List Json) :
    ∀ {content final : Collection} {skipped total : Nat}, holds content →
      (∀ item ∈ items, item.isOrdered = true) →
      addEach content skipped items = .ok (final, total) → holds final := by
  induction items with
  | nil =>
      intro content final skipped total good _ added
      cases added
      exact good
  | cons item rest inductionHypothesis =>
      intro content final skipped total good ordered added
      have restOrdered : ∀ other ∈ rest, other.isOrdered = true :=
        fun other member => ordered other (List.mem_cons_of_mem _ member)
      simp only [addEach] at added
      cases read : Document.ofJson item with
      | error fault =>
          rw [read] at added
          cases added
      | ok document =>
          have documentOrdered :=
            Document.isOrdered_of_ofJson (ordered item List.mem_cons_self) read
          simp only [read, bind, Except.bind] at added
          split at added
          · exact inductionHypothesis good restOrdered added
          · split at added
            · cases added
            next step =>
              exact inductionHypothesis (closed.add ⟨document, documentOrdered⟩ good step)
                restOrdered added

theorem holds_buildIndexes (closed : Collection.Closed holds) (fields : List String) :
    ∀ {content : Collection}, holds content →
      holds (fields.foldl Collection.buildIndex content) := by
  induction fields with
  | nil => exact fun good => good
  | cons field rest inductionHypothesis =>
      exact fun good => inductionHypothesis (closed.buildIndex field good)

/-- Every collection of a database has a property. -/
def EveryIn (holds : Collection → Prop) (collections : Database) : Prop :=
  ∀ name content, collections.find? name = some content → holds content

variable [NumeralReader]

theorem holds_documentsOfText (closed : Collection.Closed holds) {text : String}
    {content : Collection} {skipped : Nat}
    (read : documentsOfText text = .ok (content, skipped)) : holds content := by
  unfold documentsOfText at read
  split at read
  next items parsed =>
    have ordered := Json.isOrdered_of_parse? parsed
    rw [Json.isOrdered, Json.itemsOrdered_iff] at ordered
    exact holds_addEach closed items closed.empty ordered read
  next => cases read

theorem holds_readCollection (closed : Collection.Closed holds) {disk : Disk}
    {directory : Location} {name : String} {content : Collection}
    (read : readCollection disk directory name = .ok content) : holds content := by
  simp only [readCollection, readDocuments, bind, Except.bind] at read
  cases text : onDisk (disk.readText (directory.child name)) with
  | error fault => simp [text] at read
  | ok written =>
      rw [text] at read
      dsimp only at read
      cases documents : documentsOfText written with
      | error fault => simp [documents] at read
      | ok result =>
          have good := holds_documentsOfText closed documents
          simp only [documents, readIndexes, bind, Except.bind] at read
          split at read
          · split at read
            · cases read
            · split at read
              · cases read
              · cases read
                exact holds_buildIndexes closed _ good
          · cases read
            exact good

theorem everyIn_readCollections (closed : Collection.Closed holds) (disk : Disk)
    (directory : Location) (names : List String) :
    ∀ {collections final : Database}, EveryIn holds collections →
      readCollections disk directory collections names = .ok final → EveryIn holds final := by
  induction names with
  | nil =>
      intro collections final every read
      cases read
      exact every
  | cons name rest inductionHypothesis =>
      intro collections final every read
      simp only [readCollections, bind, Except.bind] at read
      split at read
      · cases read
      next content readContent =>
        refine inductionHypothesis ?_ read
        intro other found atName
        rw [SortedMap.find?_insert] at atName
        split at atName
        · cases atName
          exact holds_readCollection closed readContent
        · exact every other found atName

theorem everyIn_readDatabase (closed : Collection.Closed holds) {disk : Disk}
    {directory : Location} {collections : Database}
    (read : readDatabase disk directory = .ok collections) : EveryIn holds collections := by
  simp only [readDatabase, bind, Except.bind] at read
  split at read
  · cases read
  · refine everyIn_readCollections closed disk directory _ ?_ read
    intro name content atName
    cases atName

theorem everyIn_readDatabases (closed : Collection.Closed holds) (disk : Disk)
    (root : Location) (names : List String) :
    ∀ {databases final : SortedMap String Database},
      (∀ name collections, databases.find? name = some collections →
        EveryIn holds collections) →
      readDatabases disk root databases names = .ok final →
      ∀ name collections, final.find? name = some collections → EveryIn holds collections := by
  induction names with
  | nil =>
      intro databases final every read
      cases read
      exact every
  | cons name rest inductionHypothesis =>
      intro databases final every read
      simp only [readDatabases, bind, Except.bind] at read
      split at read
      · cases read
      next collections readCollections =>
        refine inductionHypothesis ?_ read
        intro other found atName
        rw [SortedMap.find?_insert] at atName
        split at atName
        · cases atName
          exact everyIn_readDatabase closed readCollections
        · exact every other found atName

theorem every_load (closed : Collection.Closed holds) {disk : Disk} {root : Location}
    {store : Store} (loaded : load disk root = .ok store) : store.Every holds := by
  intro database collection content atPlace
  rw [Store.collection_eq_ok_iff] at atPlace
  obtain ⟨collections, atDatabase, atCollection⟩ := atPlace
  simp only [load, bind, Except.bind] at loaded
  split at loaded
  · split at loaded
    · cases loaded
    · split at loaded
      · cases loaded
      next databases read =>
        cases loaded
        refine everyIn_readDatabases closed disk root _ ?_ read database collections atDatabase
          collection content atCollection
        intro name found atName
        cases atName
  · cases loaded
    cases atDatabase

end DataDirectory

/-! ## Every history -/

namespace Store

theorem every_empty (holds : Collection → Prop) : Store.empty.Every holds := by
  intro database collection content atPlace
  rw [collection_eq_ok_iff] at atPlace
  obtain ⟨collections, atDatabase, _⟩ := atPlace
  cases atDatabase

/-- What the empty collection has and no change loses, every collection of a reachable store
has. -/
theorem Reachable.every {holds : Collection → Prop} (closed : Collection.Closed holds)
    {store : Store} (reachable : store.Reachable) : store.Every holds := by
  induction reachable with
  | empty => exact every_empty holds
  | opened loaded => exact DataDirectory.every_load closed loaded
  | operated _ operation inductionHypothesis =>
      exact every_after closed inductionHypothesis operation

end Store

end DocStore
