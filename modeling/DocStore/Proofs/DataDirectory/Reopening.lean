import DocStore.Proofs.DataDirectory.RoundTrip

/-!
Contract: which collection names survive a save and a load.

The writer adds one ending to a name, the sweep takes one off, and the reader
takes off every repetition. A collection whose name ends like a file of
documents is therefore read under a shorter name, and one whose name ends like a
file of indexed fields without its last ending is not read at all, or taken for
the indexes of another one. No other name is lost.

Owns: the names under which `load` lists what `save` has written.
-/

namespace DocStore.DataDirectory

open Disk Text

section

variable [NumeralReader] {root : Location} {disk : Disk} {store : Store}

/-- A collection that is read from a directory without stale files has a name that ends neither
like a file of documents nor, when every collection of the database is read, like one of indexed
fields without its last ending. -/
theorem plainEndings_of_read {place : Place} {name : String} {database read : Database}
    (leads : disk.Leads root place) (named : isName name = true)
    (cleared : Cleared disk root place name database)
    (isRead : readDatabase disk (root.child name) = .ok read)
    (all : ∀ collection, read.contains collection = database.contains collection)
    {collection : String} (present : database.contains collection = true) :
    endsWith collection documentsEnding = false ∧ endsWith collection fieldsEnding = false := by
  have childLeads := leads.child named cleared.admitted.2 cleared.present
  have someFile : ∀ {other : String}, database.contains other = true →
      ∃ file, IsRead disk (place ++ [name]) file ∧ collectionRead file = other := by
    intro other inDatabase
    rw [← all] at inDatabase
    rcases find?_readDatabase childLeads cleared.admitted.1 isRead other with
      ⟨file, fileRead, isOther, -⟩ | ⟨-, absent⟩
    · exact ⟨file, fileRead, isOther⟩
    · unfold SortedMap.contains at inDatabase
      rw [absent] at inDatabase
      cases inDatabase
  have notJson : ∀ {other : String}, database.contains other = true →
      endsWith other documentsEnding = false := by
    intro other inDatabase
    obtain ⟨file, -, isOther⟩ := someFile inDatabase
    rw [← isOther]
    exact not_endsWith_collectionRead file
  refine ⟨notJson present, ?_⟩
  cases ends : endsWith collection fieldsEnding with
  | false => rfl
  | true =>
      -- The file that is read as the collection is its own, which no reader takes for documents.
      obtain ⟨file, fileRead, isCollection⟩ := someFile present
      obtain ⟨owner, content, owned, shape⟩ := cleared.documentsFile_of_isRead fileRead
      have isFile := fileRead.2
      have ownerPresent : database.contains owner = true := Option.isSome_iff_exists.2 ⟨_, owned⟩
      rw [shape, collectionRead_documentsFile (notJson ownerPresent)] at isCollection
      obtain ⟨stem, isStem⟩ := (endsWith_iff ..).1 ends
      rw [shape, isCollection, isStem, ← indexesFile_eq_documentsFile,
        isDocumentsFile_indexesFile] at isFile
      cases isFile

/-- A store that was saved into an empty directory is loaded with the same collections, each with
its own documents, exactly when no collection has a name that ends in `.json` or `.indexes`. -/
theorem reopens_iff_plainEndings [Json.ReadsBack] {session : Session}
    (reachable : store.Reachable) (named : HasNames store)
    (stemmed : ∀ entry ∈ store.databases.toList, Stemmed entry.2)
    (shallow : ∀ entry ∈ store.databases.toList, ∀ inner ∈ entry.2.toList,
      ∀ document ∈ inner.2.documents.values, document.toJson.depth ≤ depthLimit)
    (empty : disk.list root = .ok [])
    (saved : (save store root).runOn disk = (.ok (), session)) :
    (∃ reopened, load session.disk root = .ok reopened ∧
      (∀ database, reopened.collectionNames database = store.collectionNames database) ∧
      ∀ database collection key, reopened.get? database collection key =
        (store.get? database collection key).map (Option.map Document.normalised)) ↔
    ∀ entry ∈ store.databases.toList, ∀ inner ∈ entry.2.toList,
      endsWith inner.1 documentsEnding = false ∧ endsWith inner.1 fieldsEnding = false := by
  obtain ⟨place, settled⟩ := settled_of_empty empty (Knows store)
  constructor
  · rintro ⟨reopened, loaded, sameNames, -⟩ entry member inner innerMember
    have after : Settled session.disk root place (Knows store) :=
      Settled.of_save settled named saved
    have cleared := save_clears settled named
      (fun other isThere => (stemmed other isThere).hasNameParts) saved entry member
    obtain ⟨read, isRead, found⟩ : ∃ read, readDatabase session.disk (root.child entry.1) =
        .ok read ∧ reopened.databases.find? entry.1 = some read := by
      rcases after.find?_load loaded entry.1 with ⟨-, inPlace⟩ | ⟨noDirectory, -⟩
      · exact inPlace
      · exact absurd ⟨cleared.present, cleared.admitted⟩ noDirectory
    have inStore := (store.databases.mem_toList_iff entry.1 entry.2).1 member
    have sameKeys : read.keys = entry.2.keys := by
      have names := sameNames entry.1
      unfold Store.collectionNames Store.database at names
      rw [found, inStore] at names
      exact Except.ok.inj names
    apply plainEndings_of_read after.leads (named entry member) cleared isRead
    · intro collection
      rw [Bool.eq_iff_iff, ← SortedMap.mem_keys_iff, ← SortedMap.mem_keys_iff, sameKeys]
    · rw [← SortedMap.mem_keys_iff]
      exact List.mem_map.2 ⟨inner, innerMember, rfl⟩
  · intro plainEndings
    have plain : ∀ entry ∈ store.databases.toList, PlainlyNamed entry.2 := by
      intro entry member inner innerMember
      exact (isPlain_iff _).2 ⟨stemmed entry member inner innerMember,
        plainEndings entry member inner innerMember⟩
    exact ⟨store.normalised, settled.load_of_save reachable ⟨named, plain, shallow⟩ saved,
      store.collectionNames_normalised, store.get?_normalised⟩

end

private def shelfRoot : Location := ⟨["data"]⟩

private def shelfDisk : Disk := ⟨[("data", .directory [])]⟩

/-- A store of one document for each collection name. -/
private def shelfOf (collections : List String) : Store :=
  (collections.map fun collection =>
    .insert "shelf" collection "1" {}).foldl Store.after Store.empty

private def dottedShelf : Store := shelfOf [".", "..", "a.json.tmp", "indexes"]

section

attribute [local instance] NumeralReader.nearest

theorem reopens_iff_plainEndings_dotted :
    ∃ session reopened, (save dottedShelf shelfRoot).runOn shelfDisk = (.ok (), session) ∧
      load session.disk shelfRoot = .ok reopened ∧
      reopened.collectionNames "shelf" = .ok [".", "..", "a.json.tmp", "indexes"] := by
  have reachable : dottedShelf.Reachable := Store.Reachable.empty.afterAll _
  have named : HasNames dottedShelf := by
    unfold HasNames
    decide +kernel
  have stemmed : ∀ entry ∈ dottedShelf.databases.toList, Stemmed entry.2 := by
    unfold Stemmed
    decide +kernel
  have empty : shelfDisk.list shelfRoot = .ok [] := eq_ok_of_toOption (by decide +kernel)
  have saved := eq_of_toOption ((save dottedShelf shelfRoot).runOn shelfDisk) (by decide +kernel)
  obtain ⟨reopened, loaded, names, -⟩ :=
    (reopens_iff_plainEndings reachable named stemmed (by decide +kernel) empty saved).2
      (by decide +kernel)
  refine ⟨_, reopened, saved, loaded, ?_⟩
  rw [names]
  exact eq_ok_of_toOption (by decide +kernel)

end

private def misnamed : Store :=
  Store.empty.after (.insert "db" "a.json" "0" { fields := [("_id", .string "1")] })

private def misnamedSaved : Session :=
  ((save misnamed ⟨["d"]⟩).runOn ⟨[("d", .directory [])]⟩).2

/-- A collection `a.json` is read back as `a`. -/
theorem reopened_misnamed :
    misnamed.collectionNames "db" = .ok ["a.json"] ∧
      (save misnamed ⟨["d"]⟩).runOn ⟨[("d", .directory [])]⟩ = (.ok (), misnamedSaved) ∧
      ∃ reopened, load misnamedSaved.disk ⟨["d"]⟩ = .ok reopened ∧
        reopened.collectionNames "db" = .ok ["a"] := by
  have names : ((load misnamedSaved.disk ⟨["d"]⟩).toOption.bind fun reopened =>
      (reopened.collectionNames "db").toOption) = some ["a"] := by
    decide +kernel
  obtain ⟨reopened, loaded, listed⟩ := Option.bind_eq_some_iff.1 names
  exact ⟨eq_ok_of_toOption (by decide +kernel), eq_of_toOption _ (by decide +kernel),
    reopened, eq_ok_of_toOption loaded, eq_ok_of_toOption listed⟩

end DocStore.DataDirectory
