import DocStore.Proofs.Store.Insertion

/-!
Contract: what an operation that is refused leaves of the store.

Inserting, deleting, indexing and dropping check everything that they need before
they change a document, an index or a count, so a refusal leaves all of these as
they were. An insertion has by then created its collection. A refused insertion
into a collection that did not exist leaves that collection behind, empty.

Owns: `Store.fault?`, `Store.Refuses` and the laws of refused operations.
-/

namespace DocStore

namespace Store

/-- The error of an outcome. -/
def errorOf? {Result : Type} : Except Error Result → Option Error
  | .ok _ => none
  | .error fault => some fault

/-- The error that an operation answers, if it is refused. -/
def fault? (store : Store) : Operation → Option Error
  | .createDatabase _ => none
  | .createCollection _ _ => none
  | .dropCollection database collection => errorOf? (store.dropCollection database collection)
  | .insert database collection fresh document =>
      errorOf? (store.insert database collection fresh document).1
  | .insertMany database collection fresh documents =>
      errorOf? (store.insertMany database collection fresh
        (documents.map OrderedDocument.toDocument)).1
  | .delete database collection key => errorOf? (store.delete database collection key)
  | .createIndex database collection field => errorOf? (store.createIndex database collection field)
  | .dropIndex database collection field => errorOf? (store.dropIndex database collection field)

/-- The operation works on one document, one index or one entry of the catalogue. -/
def Operation.isSingle : Operation → Bool
  | insertMany _ _ _ _ => false
  | _ => true

/-- Why a store refuses an operation. -/
inductive Refuses (store : Store) : Operation → Error → Prop
  | dropCollection {database collection : String} {fault : Error}
      (missing : store.database database = .error fault) :
      Refuses store (.dropCollection database collection) fault
  | keyNotString {database collection fresh : String} {document : OrderedDocument} {fault : Error}
      (noKey : Collection.keyFor fresh document = .error fault) :
      Refuses store (.insert database collection fresh document) fault
  | keyTaken {database collection fresh key : String} {document : OrderedDocument}
      {stored : Document}
      (isKey : Collection.keyFor fresh document = .ok key)
      (taken : store.get? database collection key = .ok (some stored)) :
      Refuses store (.insert database collection fresh document) (.duplicateKey key)
  | delete {database collection key : String} {fault : Error}
      (missing : store.collection database collection = .error fault) :
      Refuses store (.delete database collection key) fault
  | noField {database collection : String} :
      Refuses store (.createIndex database collection "") .emptyIndexField
  | createIndex {database collection field : String} {fault : Error} (named : field ≠ "")
      (missing : store.collection database collection = .error fault) :
      Refuses store (.createIndex database collection field) fault
  | dropIndex {database collection field : String} {fault : Error}
      (missing : store.collection database collection = .error fault) :
      Refuses store (.dropIndex database collection field) fault

variable {store : Store} {database collection fresh : String} {document : OrderedDocument}
  {fault : Error}

/-! ## Refusals -/

theorem errorOf?_eq_some_iff {Result : Type} (outcome : Except Error Result) (fault : Error) :
    errorOf? outcome = some fault ↔ outcome = .error fault := by
  cases outcome with
  | ok result => exact iff_of_false (fun same => nomatch same) fun same => nomatch same
  | error other =>
      rw [errorOf?, Option.some.injEq, Except.error.injEq]

/-- What only looks something up and goes on with it is refused when the look-up is. -/
theorem errorOf?_bind_ok {Found Result : Type} (look : Except Error Found)
    {next : Found → Except Error Result} (goesOn : ∀ found, ∃ result, next found = .ok result)
    (fault : Error) : errorOf? (look >>= next) = some fault ↔ look = .error fault := by
  cases look with
  | error other =>
      show errorOf? (Except.error other : Except Error Result) = some fault ↔ _
      rw [errorOf?, Option.some.injEq, Except.error.injEq]
  | ok found =>
      rcases goesOn found with ⟨result, isResult⟩
      refine iff_of_false (fun refused => ?_) fun same => nomatch same
      rw [errorOf?_eq_some_iff] at refused
      change next found = .error fault at refused
      rw [isResult] at refused
      cases refused

theorem add_eq_error_iff (content : Collection) (fresh : String) (document : Document)
    (fault : Error) :
    content.add fresh document = .error fault ↔
      Collection.keyFor fresh document = .error fault ∨
        ∃ key stored, Collection.keyFor fresh document = .ok key ∧
          content.documents.find? key = some stored ∧ fault = .duplicateKey key := by
  unfold Collection.add
  cases keyed : Collection.keyFor fresh document with
  | error other => simp [bind, Except.bind]
  | ok key =>
      simp only [bind, Except.bind, Except.ok.injEq, reduceCtorEq, false_or]
      by_cases taken : content.documents.contains key = true
      · rcases Option.isSome_iff_exists.1 taken with ⟨stored, found⟩
        rw [if_pos taken]
        simp [found, eq_comm]
      · have absent : content.documents.find? key = none := by
          simpa [SortedMap.contains] using taken
        rw [if_neg taken]
        simp [absent]

theorem errorOf?_insert (store : Store) (database collection fresh : String)
    (document : Document) :
    errorOf? (store.insert database collection fresh document).1 =
      errorOf? ((store.collectionOrEmpty database collection).add fresh document) := by
  unfold insert createCollection
  simp only [collectionOrEmpty_putCollection]
  cases (store.collectionOrEmpty database collection).add fresh document with
  | ok added => rfl
  | error fault => rfl

theorem fault?_eq_some_iff {operation : Operation} (single : operation.isSingle = true)
    (fault : Error) : store.fault? operation = some fault ↔ store.Refuses operation fault := by
  cases operation with
  | createDatabase database => exact iff_of_false (fun same => nomatch same) fun why => nomatch why
  | createCollection database collection =>
      exact iff_of_false (fun same => nomatch same) fun why => nomatch why
  | dropCollection database collection =>
      rw [fault?, Store.dropCollection, errorOf?_bind_ok _ fun _ => ⟨_, rfl⟩]
      constructor
      · exact .dropCollection
      · rintro ⟨missing⟩
        exact missing
  | insert database collection fresh document =>
      rw [fault?, errorOf?_insert, errorOf?_eq_some_iff, add_eq_error_iff]
      simp only [find?_collectionOrEmpty]
      constructor
      · rintro (noKey | ⟨key, stored, isKey, taken, isFault⟩)
        · exact .keyNotString noKey
        · rw [isFault]
          exact .keyTaken isKey taken
      · intro why
        cases why with
        | keyNotString noKey => exact .inl noKey
        | keyTaken isKey taken => exact .inr ⟨_, _, isKey, taken, rfl⟩
  | insertMany database collection fresh documents => cases single
  | delete database collection key =>
      rw [fault?, Store.delete, errorOf?_bind_ok _ fun content => by
        cases content.take key <;> exact ⟨_, rfl⟩]
      constructor
      · exact .delete
      · rintro ⟨⟩
        assumption
  | createIndex database collection field =>
      rw [fault?, Store.createIndex]
      by_cases isEmpty : field = ""
      · rw [if_pos isEmpty, isEmpty, errorOf?_eq_some_iff, Except.error.injEq]
        constructor
        · intro isFault
          rw [← isFault]
          exact .noField
        · intro why
          cases why with
          | noField => rfl
          | createIndex named => exact absurd rfl named
      · rw [if_neg isEmpty, errorOf?_bind_ok _ fun _ => ⟨_, rfl⟩]
        constructor
        · exact .createIndex isEmpty
        · intro why
          cases why with
          | noField => exact absurd rfl isEmpty
          | createIndex _ missing => exact missing
  | dropIndex database collection field =>
      rw [fault?, Store.dropIndex, errorOf?_bind_ok _ fun _ => ⟨_, rfl⟩]
      constructor
      · exact .dropIndex
      · rintro ⟨⟩
        assumption

/-! ## What is left -/

theorem insert_of_refused
    (refused : store.fault? (.insert database collection fresh document) = some fault) :
    store.insert database collection fresh document =
      (.error fault, store.createCollection database collection) := by
  rw [fault?, errorOf?_insert, errorOf?_eq_some_iff] at refused
  unfold insert createCollection
  simp only [collectionOrEmpty_putCollection, refused]

/-- A collection that is put where it stands changes nothing. -/
theorem putCollection_of_collection {content : Collection}
    (found : store.collection database collection = .ok content) :
    store.putCollection database collection content = store := by
  rcases (collection_eq_ok_iff ..).1 found with ⟨collections, atDatabase, atCollection⟩
  have sameCollections : collections.insert collection content = collections := by
    apply SortedMap.ext
    intro other
    rw [SortedMap.find?_insert]
    split
    next isHere => rw [isHere, atCollection]
    next => rfl
  have sameDatabases : store.databases.insert database collections = store.databases := by
    apply SortedMap.ext
    intro other
    rw [SortedMap.find?_insert]
    split
    next isHere => rw [isHere, atDatabase]
    next => rfl
  unfold putCollection
  simp only [atDatabase, Option.getD_some, sameCollections, sameDatabases]

theorem createCollection_eq_self_iff (store : Store) (database collection : String) :
    store.createCollection database collection = store ↔
      ∃ content, store.collection database collection = .ok content := by
  constructor
  · intro same
    refine ⟨store.collectionOrEmpty database collection, ?_⟩
    rw [← same, createCollection, collectionOrEmpty_putCollection, collection_putCollection,
      if_pos ⟨rfl, rfl⟩]
  · rintro ⟨content, found⟩
    have isContent : store.collectionOrEmpty database collection = content := by
      rw [collectionOrEmpty, found]
    rw [createCollection, isContent]
    exact putCollection_of_collection found

/-- A refused operation leaves its store, or the one in which an insertion has created its
collection. -/
theorem after_of_refuses {operation : Operation} (refuses : store.Refuses operation fault) :
    store.after operation =
      match operation with
      | .insert database collection _ _ => store.createCollection database collection
      | _ => store := by
  have inserts : ∀ {database collection fresh : String} {document : OrderedDocument}
      {fault : Error},
      store.Refuses (.insert database collection fresh document) fault →
        store.after (.insert database collection fresh document) =
          store.createCollection database collection := by
    intro database collection fresh document fault why
    rw [after, insert_of_refused ((fault?_eq_some_iff rfl fault).2 why)]
  cases refuses with
  | dropCollection missing => simp only [after, Store.dropCollection, missing, bind, Except.bind]
  | keyNotString noKey => exact inserts (.keyNotString noKey)
  | keyTaken isKey taken => exact inserts (.keyTaken isKey taken)
  | delete missing => simp only [after, Store.delete, missing, bind, Except.bind]
  | noField => rfl
  | createIndex named missing =>
      simp only [after, Store.createIndex, if_neg named, missing, bind, Except.bind]
  | dropIndex missing => simp only [after, Store.dropIndex, missing, bind, Except.bind]

/-- A refused operation leaves the store as it was, except that an insertion has created the
collection it was meant for. -/
theorem after_eq_self_iff_of_refused {operation : Operation}
    (single : operation.isSingle = true) (refused : store.fault? operation = some fault) :
    store.after operation = store ↔
      ∀ database collection fresh document,
        operation = .insert database collection fresh document →
          ∃ content, store.collection database collection = .ok content := by
  rw [after_of_refuses ((fault?_eq_some_iff single fault).1 refused)]
  cases operation with
  | insert database collection fresh document =>
      rw [createCollection_eq_self_iff]
      constructor
      · intro isThere otherDatabase otherCollection otherFresh otherDocument same
        cases same
        exact isThere
      · intro isThere
        exact isThere database collection fresh document rfl
  | _ => exact iff_of_true rfl fun _ _ _ _ same => nomatch same

/-- A collection `c` with the document `a`, indexed by a field. -/
private def shelf : Store :=
  [Operation.insert "db" "c" "" { fields := [("_id", .string "a"), ("n", .bool true)] },
    .createIndex "db" "c" "n"].foldl after Store.empty

private def another : OrderedDocument := { fields := [("_id", .string "a"), ("n", .null)] }

/-- A second document with the key `a` is refused and leaves its collection as it was. -/
theorem after_refused_duplicate :
    shelf.fault? (.insert "db" "c" "" another) = some (.duplicateKey "a") ∧
      shelf.after (.insert "db" "c" "" another) = shelf := by
  have refused : shelf.fault? (.insert "db" "c" "" another) = some (.duplicateKey "a") := by
    decide +kernel
  refine ⟨refused, (after_eq_self_iff_of_refused rfl refused).2 ?_⟩
  intro database collection fresh document same
  cases same
  have isThere : errorOf? (shelf.collection "db" "c") = none := by decide +kernel
  cases found : shelf.collection "db" "c" with
  | ok content => exact ⟨content, rfl⟩
  | error fault =>
      rw [found] at isThere
      cases isThere

private def numbered : OrderedDocument := { fields := [("_id", .number (Number.ofInt 7))] }

/-- A document with the number 7 for a key is refused, and leaves a database. -/
theorem after_refused_uncreated :
    Store.empty.fault? (.insert "db" "c" "" numbered) = some (.keyNotString "7") ∧
      Store.empty.databaseNames = [] ∧
      (Store.empty.after (.insert "db" "c" "" numbered)).databaseNames = ["db"] := by
  decide +kernel

end Store

end DocStore
