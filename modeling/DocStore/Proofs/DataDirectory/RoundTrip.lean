import DocStore.Proofs.DataDirectory.Depth
import DocStore.Store.Source

/-!
Contract: a store that is saved and loaded comes back normalised.

A root is kept for a store from an empty directory on, while operations change
the store, the store is saved below the root, or is opened from it anew. Saving
then leaves a disk from which the store is loaded with the same databases,
collections, indexed fields and counts and with every document normalised;
saving what was loaded leaves every file as it is.

Owns: `DataDirectory.Kept` and the round trip.
-/

namespace DocStore.DataDirectory

open Disk Work

/-! ## Histories -/

/-- A disk and a store whose only use of a root so far was to be saved below it and to be opened
from it, from an empty directory on. -/
inductive Kept (root : Location) : Disk → Store → Prop
  | fresh {disk : Disk} {store : Store} (reachable : store.Reachable)
      (empty : disk.list root = .ok []) : Kept root disk store
  | operated {disk : Disk} {store : Store} (kept : Kept root disk store)
      (operation : Store.Operation) : Kept root disk (store.after operation)
  | saved {disk : Disk} {store : Store} {session : Session} (kept : Kept root disk store)
      (saved : (save store root).runOn disk = (.ok (), session)) : Kept root session.disk store
  | reopened [NumeralReader] {disk : Disk} {store again : Store} (kept : Kept root disk store)
      (named : HasNames store) (loaded : load disk root = .ok again) : Kept root disk again

variable {root : Location} {disk : Disk} {store : Store}

theorem Kept.reachable (kept : Kept root disk store) : store.Reachable := by
  induction kept with
  | fresh reachable empty => exact reachable
  | operated kept operation inductionHypothesis => exact inductionHypothesis.operated operation
  | saved kept saved inductionHypothesis => exact inductionHypothesis
  | reopened kept named loaded inductionHypothesis => exact .opened loaded

/-! ## Databases are never dropped -/

theorem contains_insert_iff (databases : SortedMap String Database) (database : String)
    (collections : Database) (name : String) :
    (databases.insert database collections).contains name = true ↔
      name = database ∨ databases.contains name = true := by
  unfold SortedMap.contains
  rw [SortedMap.find?_insert]
  split
  next same => simp [same]
  next other => simp [other]

theorem knows_putCollection_iff (store : Store) (database collection : String)
    (content : Collection) (name : String) :
    Knows (store.putCollection database collection content) name ↔
      name = database ∨ Knows store name :=
  contains_insert_iff ..

theorem knows_after (operation : Store.Operation) {name : String} (isKnown : Knows store name) :
    Knows (store.after operation) name := by
  cases operation with
  | createDatabase database =>
      simp only [Store.after, Store.createDatabase]
      split
      · exact isKnown
      · exact (contains_insert_iff ..).2 (.inr isKnown)
  | createCollection database collection => exact (knows_putCollection_iff ..).2 (.inr isKnown)
  | dropCollection database collection =>
      simp only [Store.after, Store.dropCollection, Store.database]
      cases store.databases.find? database with
      | none => exact isKnown
      | some collections => exact (contains_insert_iff ..).2 (.inr isKnown)
  | insert database collection fresh document =>
      have created := (knows_putCollection_iff store database collection
        (store.collectionOrEmpty database collection) name).2 (.inr isKnown)
      simp only [Store.after, Store.insert]
      split
      · exact (knows_putCollection_iff ..).2 (.inr created)
      · exact created
  | insertMany database collection fresh documents =>
      exact (knows_putCollection_iff ..).2 (.inr isKnown)
  | delete database collection key =>
      simp only [Store.after, Store.delete]
      cases store.collection database collection with
      | error fault => exact isKnown
      | ok content =>
          simp only [bind, Except.bind]
          cases content.take key with
          | none => exact isKnown
          | some left => exact (knows_putCollection_iff ..).2 (.inr isKnown)
  | createIndex database collection field =>
      simp only [Store.after, Store.createIndex]
      by_cases noField : field = ""
      · simp only [noField, reduceIte]
        exact isKnown
      · simp only [noField, reduceIte]
        cases store.collection database collection with
        | error fault => exact isKnown
        | ok content => exact (knows_putCollection_iff ..).2 (.inr isKnown)
  | dropIndex database collection field =>
      simp only [Store.after, Store.dropIndex]
      cases store.collection database collection with
      | error fault => exact isKnown
      | ok content => exact (knows_putCollection_iff ..).2 (.inr isKnown)

theorem hasNames_iff (store : Store) :
    HasNames store ↔ ∀ name, Knows store name → isName name = true := by
  constructor
  · intro named name isKnown
    obtain ⟨database, found⟩ := Option.isSome_iff_exists.1 isKnown
    exact named (name, database) ((store.databases.mem_toList_iff ..).2 found)
  · exact fun named entry member => named entry.1 (knows_of_mem member)

/-! ## The root stays settled -/

theorem settled_of_empty (empty : disk.list root = .ok []) (known : String → Prop) :
    ∃ place, Settled disk root place known := by
  obtain ⟨place, resolved, isDirectory, members⟩ := directory_of_list empty
  have nothing : ∀ name, disk.standing? (place ++ [name]) = none := by
    intro name
    cases found : disk.standing? (place ++ [name]) with
    | none => rfl
    | some standing =>
        have member := (members name).2 (by rw [found]; exact Option.some_ne_none _)
        exact absurd member List.not_mem_nil
  refine ⟨place, ((resolve_eq_ok_iff ..).1 resolved).1, leads_of_resolve resolved isDirectory,
    ?_, ?_⟩
  · intro rest present name member
    match rest with
    | [] => exact absurd member List.not_mem_nil
    | [first] => exact absurd (nothing first) present
    | first :: second :: others =>
        rw [List.append_cons] at present
        have isDirectory := standing?_below_eq_directory present
        rw [nothing first] at isDirectory
        cases isDirectory
  · intro name isDirectory
    rw [nothing name] at isDirectory
    cases isDirectory

theorem Kept.settled (kept : Kept root disk store) :
    HasNames store → ∃ place, Settled disk root place (Knows store) := by
  induction kept with
  | fresh reachable empty => exact fun _ => settled_of_empty empty _
  | @operated disk store kept operation inductionHypothesis =>
      intro named
      have namedBefore : HasNames store := by
        rw [hasNames_iff] at named ⊢
        exact fun name isKnown => named name (knows_after operation isKnown)
      obtain ⟨place, settled⟩ := inductionHypothesis namedBefore
      exact ⟨place, settled.imp fun name => knows_after operation⟩
  | saved kept saved inductionHypothesis =>
      intro named
      obtain ⟨place, settled⟩ := inductionHypothesis named
      exact ⟨place, Settled.of_save settled named saved⟩
  | reopened kept named loaded inductionHypothesis =>
      intro _
      obtain ⟨place, settled⟩ := inductionHypothesis named
      exact ⟨place, settled.of_load loaded⟩

/-! ## The round trip -/

theorem collection_of_mem {entry : String × Database} (member : entry ∈ store.databases.toList)
    {inner : String × Collection} (innerMember : inner ∈ entry.2.toList) :
    store.collection entry.1 inner.1 = .ok inner.2 :=
  (Store.collection_eq_ok_iff ..).2 ⟨entry.2, (store.databases.mem_toList_iff ..).1 member,
    (entry.2.mem_toList_iff ..).1 innerMember⟩

theorem readable_of_reachable (reachable : store.Reachable)
    (shallow : ∀ entry ∈ store.databases.toList, ∀ inner ∈ entry.2.toList,
      ∀ document ∈ inner.2.documents.values, document.toJson.depth ≤ depthLimit) :
    ∀ entry ∈ store.databases.toList, ∀ inner ∈ entry.2.toList, Readable inner.2 := by
  intro entry member inner innerMember
  have found := collection_of_mem member innerMember
  refine ⟨reachable.sound _ _ _ found, reachable.ordered _ _ _ found, fun key document atKey => ?_⟩
  exact shallow entry member inner innerMember document
    ((inner.2.documents.mem_values_iff document).2 ⟨key, atKey⟩)

/-- A store with plain names whose documents are not nested too deeply. -/
structure IsSavable (store : Store) : Prop where
  named : HasNames store
  plain : HasPlainNames store
  shallow : ∀ entry ∈ store.databases.toList, ∀ inner ∈ entry.2.toList,
    ∀ document ∈ inner.2.documents.values, document.toJson.depth ≤ depthLimit

theorem HasPlainNames.isPlain_of_collection (plain : HasPlainNames store)
    {database collection : String} {content : Collection}
    (found : store.collection database collection = .ok content) : isPlain collection = true := by
  rcases (Store.collection_eq_ok_iff ..).1 found with ⟨collections, inStore, inDatabase⟩
  exact plain (database, collections) ((store.databases.mem_toList_iff ..).2 inStore)
    (collection, content) ((collections.mem_toList_iff ..).2 inDatabase)

theorem IsSavable.every_shallow (savable : IsSavable store) : store.Every Shallow := by
  intro database collection content found key document atKey
  rcases (Store.collection_eq_ok_iff ..).1 found with ⟨collections, inStore, inDatabase⟩
  exact savable.shallow (database, collections) ((store.databases.mem_toList_iff ..).2 inStore)
    (collection, content) ((collections.mem_toList_iff ..).2 inDatabase) document
    ((content.documents.mem_values_iff document).2 ⟨key, atKey⟩)

theorem IsSavable.readable (savable : IsSavable store) (reachable : store.Reachable)
    {database collection : String} {content : Collection}
    (found : store.collection database collection = .ok content) : Readable content :=
  ⟨reachable.sound _ _ _ found, reachable.ordered _ _ _ found, savable.every_shallow _ _ _ found⟩

theorem hasPlainNames_iff (store : Store) :
    HasPlainNames store ↔ ∀ database collection content,
      store.collection database collection = .ok content → isPlain collection = true := by
  constructor
  · exact fun plain _ _ _ => plain.isPlain_of_collection
  · exact fun plain _ member _ innerMember => plain _ _ _ (collection_of_mem member innerMember)

theorem isSavable_of_every_shallow (named : HasNames store) (plain : HasPlainNames store)
    (shallow : store.Every Shallow) : IsSavable store := by
  refine ⟨named, plain, fun entry member inner innerMember document isValue => ?_⟩
  rcases (inner.2.documents.mem_values_iff document).1 isValue with ⟨key, found⟩
  exact shallow _ _ _ (collection_of_mem member innerMember) key document found

/-- A store that was saved below a settled root is loaded normalised. -/
theorem Settled.load_of_save [NumeralReader] [Json.ReadsBack] {place : Place}
    {before after : Session}
    (settled : Settled before.disk root place (Knows store)) (reachable : store.Reachable)
    (savable : IsSavable store) (saved : (save store root).Ends before () after) :
    load after.disk root = .ok store.normalised := by
  have settledAfter : Settled after.disk root place (Knows store) :=
    Settled.of_save settled savable.named saved
  have holds : HoldsStore after.disk root place store :=
    save_effect settled savable.named savable.plain saved
  exact load_of_holds settledAfter savable.named savable.plain
    (readable_of_reachable reachable savable.shallow) holds

/-- If a disk that holds a store is loaded at all, the store is shallow. -/
theorem HoldsStore.shallow_of_load [NumeralReader] [Json.ReadsBack] {place : Place} {again : Store}
    (holds : HoldsStore disk root place store) (settled : Settled disk root place (Knows store))
    (reachable : store.Reachable) (plain : HasPlainNames store)
    (loaded : load disk root = .ok again) : store.Every Shallow := by
  intro database collection content found
  rcases (Store.collection_eq_ok_iff ..).1 found with ⟨collections, inStore, inDatabase⟩
  have member := (store.databases.mem_toList_iff database collections).2 inStore
  have inPlace := holds _ member
  have files := inPlace.collections (collection, content)
    ((collections.mem_toList_iff ..).2 inDatabase)
  have leads := settled.leads_child inPlace.present inPlace.admitted
  have isPlainName := plain.isPlain_of_collection found
  rcases (isPlain_iff collection).1 isPlainName with ⟨stemmed, bare, -⟩
  rcases settled.find?_load loaded database with ⟨-, read, isRead, -⟩ | ⟨noDirectory, -⟩
  · rcases find?_readDatabase leads inPlace.admitted.1 isRead collection with
      ⟨file, fileRead, isCollection, other, otherRead, -⟩ | ⟨absent, -⟩
    · rw [inPlace.eq_documentsFile (plain _ member) fileRead isCollection] at otherRead
      rcases exists_readDocuments otherRead with ⟨documents, documentsRead⟩
      rw [readDocuments_of_present leads stemmed files.documents.admitted.2
        files.documents.present] at documentsRead
      exact shallow_of_documentsText (reachable.ordered _ _ _ found) documentsRead
    · refine absurd (collectionRead_documentsFile bare) (absent (documentsFile collection) ⟨?_, ?_⟩)
      · rw [files.documents.present]
        exact Option.some_ne_none _
      · exact isDocumentsFile_documentsFile isPlainName
  · exact absurd ⟨inPlace.present, inPlace.admitted⟩ noDirectory

/-- A store with plain names that was saved below a settled root is loaded exactly when it is
shallow. -/
theorem Settled.load_of_save_cases [NumeralReader] [Json.ReadsBack] {place : Place}
    {before after : Session}
    (settled : Settled before.disk root place (Knows store)) (reachable : store.Reachable)
    (named : HasNames store) (plain : HasPlainNames store)
    (saved : (save store root).Ends before () after) :
    load after.disk root = .ok store.normalised ∧ store.Every Shallow ∨
      (∃ fault, load after.disk root = .error fault) ∧ ¬store.Every Shallow := by
  have settledAfter : Settled after.disk root place (Knows store) :=
    Settled.of_save settled named saved
  have holds : HoldsStore after.disk root place store := save_effect settled named plain saved
  by_cases shallow : store.Every Shallow
  · have savable := isSavable_of_every_shallow named plain shallow
    exact .inl ⟨settled.load_of_save reachable savable saved, shallow⟩
  · cases loaded : load after.disk root with
    | error fault => exact .inr ⟨⟨fault, rfl⟩, shallow⟩
    | ok again => exact absurd (holds.shallow_of_load settledAfter reachable plain loaded) shallow

/-- The files of a store hold its normal form as well. -/
theorem HoldsStore.normalised {place : Place} (holds : HoldsStore disk root place store) :
    HoldsStore disk root place store.normalised := by
  intro entry member
  obtain ⟨⟨name, database⟩, inStore, rfl⟩ := List.mem_map.1 member
  have before := holds (name, database) inStore
  refine ⟨⟨before.admitted, before.present, ?_⟩, ?_⟩
  · intro file present
    have notStale := before.swept file present
    unfold isStale SortedMap.contains at notStale ⊢
    simp only [SortedMap.find?_mapValues, Option.isSome_map]
    exact notStale
  · intro inner innerMember
    obtain ⟨⟨collection, content⟩, inDatabase, rfl⟩ := List.mem_map.1 innerMember
    have files := before.collections (collection, content) inDatabase
    refine ⟨?_, ?_, ?_⟩
    · rw [documentsText_normalised]
      exact files.documents
    · rw [isEmpty_normalised]
      exact files.noIndexes
    · rw [isEmpty_normalised, indexesText_normalised]
      exact files.indexes

/-- Saving a store below a root that was kept for it, and loading it again, gives a store with the
same databases, collections, indexed fields and counts and with the same documents, normalised;
saving that one again leaves every file as it is. -/
theorem Kept.save_load_save [NumeralReader] [Json.ReadsBack] {session : Session}
    (kept : Kept root disk store) (named : HasNames store)
    (storable : ∀ entry ∈ store.databases.toList, IsStorable entry.2)
    (shallow : ∀ entry ∈ store.databases.toList, ∀ inner ∈ entry.2.toList,
      ∀ document ∈ inner.2.documents.values, document.toJson.depth ≤ depthLimit)
    (saved : (save store root).runOn disk = (.ok (), session)) :
    ∃ reopened, load session.disk root = .ok reopened ∧
      reopened.databaseNames = store.databaseNames ∧
      (∀ database, reopened.collectionNames database = store.collectionNames database) ∧
      (∀ database collection,
        reopened.indexNames database collection = store.indexNames database collection) ∧
      (∀ database collection,
        reopened.source.count database collection = store.source.count database collection) ∧
      (∀ database collection key, reopened.get? database collection key =
        (store.get? database collection key).map (Option.map Document.normalised)) ∧
      ∃ again, (save reopened root).runOn session.disk = (.ok (), again) ∧
        ∀ place, again.disk.standing? place = session.disk.standing? place := by
  obtain ⟨place, settled⟩ := kept.settled named
  have after : Settled session.disk root place (Knows store) :=
    Settled.of_save settled named saved
  have plain : ∀ entry ∈ store.databases.toList, PlainlyNamed entry.2 :=
    fun entry member => (storable entry member).plainlyNamed
  have holds : HoldsStore session.disk root place store :=
    save_effect settled named plain saved
  have sound := kept.reachable.sound
  have readable := readable_of_reachable kept.reachable shallow
  have namedAgain : HasNames store.normalised := by
    intro entry member
    obtain ⟨before, inStore, rfl⟩ := List.mem_map.1 member
    exact named before inStore
  have plainAgain : ∀ entry ∈ store.normalised.databases.toList, PlainlyNamed entry.2 := by
    intro entry member inner innerMember
    obtain ⟨before, inStore, rfl⟩ := List.mem_map.1 member
    obtain ⟨content, inDatabase, rfl⟩ := List.mem_map.1 innerMember
    exact plain before inStore content inDatabase
  obtain ⟨again, endsAgain, same⟩ : ∃ again,
      (save store.normalised root).Ends (Session.start session.disk) () again ∧
        again.disk.standing? = session.disk.standing? :=
    ends_save_again after.leads after.allowed namedAgain plainAgain holds.normalised
  refine ⟨store.normalised, load_of_holds after named plain readable holds,
    store.databaseNames_normalised, store.collectionNames_normalised,
    store.indexNames_normalised, fun database collection => ?_, store.get?_normalised,
    again, endsAgain, fun other => congrFun same other⟩
  -- The count of a reachable collection is the number of its documents.
  simp only [Store.source, Store.collection_normalised]
  cases found : store.collection database collection with
  | error fault => rfl
  | ok content =>
      simp only [Except.map, bind, Except.bind, Collection.count_normalised,
        (sound _ _ _ found).counted]

/-! ## A shop -/

theorem eq_of_toOption (run : Except Error Unit × Session)
    (isSome : run.1.toOption = some ()) : run = (.ok (), run.2) := by
  obtain ⟨outcome, session⟩ := run
  have isOk : outcome = .ok () := eq_ok_of_toOption isSome
  rw [isOk]

attribute [local instance] NumeralReader.nearest

private def shopRoot : Location := ⟨["data"]⟩

private def shopDisk : Disk := ⟨[("data", .directory [])]⟩

private def shopBook : OrderedDocument :=
  { fields := [("_id", .string "1"), ("price", .number .nan),
      ("stock", .number (.finite true ⟨0, Number.gridSize_pos⟩))] }

private def shopFilled : Store :=
  [.insert "shop" "books" "1" shopBook, .createIndex "shop" "books" "price",
    .createCollection "shop" "old"].foldl Store.after Store.empty

private def shopThinned : Store :=
  [.dropCollection "shop" "old", .dropIndex "shop" "books" "price"].foldl Store.after shopFilled

private def shopSaved : Session := ((save shopFilled shopRoot).runOn shopDisk).2

/-- A collection and an index that were dropped after the first save do not come back, and NaN and
negative zero come back as a string and zero. -/
theorem save_load_save_dropped :
    ∃ session reopened, (save shopThinned shopRoot).runOn shopSaved.disk = (.ok (), session) ∧
      load session.disk shopRoot = .ok reopened ∧
      reopened.collectionNames "shop" = .ok ["books"] ∧
      reopened.indexNames "shop" "books" = .ok [] ∧
      (reopened.get? "shop" "books" "1").toOption.map (Option.map Document.compact) =
        some (some "\x7b\"_id\":\"1\",\"price\":\"NaN\",\"stock\":0\x7d") := by
  have reachable : shopFilled.Reachable := Store.Reachable.empty.afterAll _
  have fresh : Kept shopRoot shopDisk shopFilled :=
    .fresh reachable (eq_ok_of_toOption (by decide +kernel))
  have filled := eq_of_toOption ((save shopFilled shopRoot).runOn shopDisk) (by decide +kernel)
  have kept : Kept shopRoot shopSaved.disk shopThinned := by
    unfold shopSaved
    have saved := fresh.saved filled
    have dropped := saved.operated (.dropCollection "shop" "old")
    exact dropped.operated (.dropIndex "shop" "books" "price")
  have thinned := eq_of_toOption ((save shopThinned shopRoot).runOn shopSaved.disk)
    (by decide +kernel)
  have named : HasNames shopThinned := by
    unfold HasNames
    decide +kernel
  have storable : ∀ entry ∈ shopThinned.databases.toList, IsStorable entry.2 := by
    unfold IsStorable
    decide +kernel
  obtain ⟨reopened, loaded, -, collections, indexes, -, documents, -⟩ :=
    kept.save_load_save named storable (by decide +kernel) thinned
  refine ⟨_, reopened, thinned, loaded, ?_, ?_, ?_⟩
  · rw [collections]
    exact eq_ok_of_toOption (by decide +kernel)
  · rw [indexes]
    exact eq_ok_of_toOption (by decide +kernel)
  · rw [documents]
    decide +kernel

end DocStore.DataDirectory
