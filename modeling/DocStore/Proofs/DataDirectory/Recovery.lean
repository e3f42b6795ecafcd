import DocStore.Proofs.DataDirectory.Interruption

/-!
Contract: what is loaded after a save has stopped early.

On a disk on the way between two stores every file of a collection has the text
that one of the stores has for it. The file of documents decides which documents
are read; the file of indexed fields may stem from the other store, as fields
never decide which documents a collection has. So every such disk is loaded, and
each collection has its documents of the one or of the other store.

Owns: `DataDirectory.Recovered` and `load` of what a stopped save leaves.
-/

namespace DocStore.DataDirectory

open Disk Work

variable {old left : Disk} {root : Location} {place : Place} {known : String → Prop}
  {earlier store : Store} {name file : String}

/-! ## Texts of two stores -/

/-- What a disk that holds a store has in the files of collections are the store's texts. -/
theorem HoldsStore.fileText (holds : HoldsStore old root place earlier)
    (settled : Settled old root place (Knows earlier)) (admitted : Admits root name)
    (isKept : collectionKept? file ≠ none)
    (asked : isDocumentsFile file = true ∨ Admits (root.child name) file)
    (present : old.standing? (place ++ [name] ++ [file]) ≠ none) :
    ∃ text, FileText earlier name file text ∧ Admits (root.child name) file ∧
      old.standing? (place ++ [name] ++ [file]) = some (.file text.toUTF8) := by
  have isDirectory : old.standing? (place ++ [name]) = some .directory :=
    standing?_below_eq_directory present
  rcases Option.isSome_iff_exists.1 (settled.directories name isDirectory admitted) with
    ⟨database, inStore⟩
  have inPlace := holds (name, database) ((earlier.databases.mem_toList_iff ..).2 inStore)
  rcases Option.ne_none_iff_exists'.1 isKept with ⟨collection, isKept⟩
  rcases exists_content_of_not_stale (inPlace.swept file present) isKept with
    ⟨content, inDatabase⟩
  have found : earlier.collection name collection = .ok content :=
    (Store.collection_eq_ok_iff ..).2 ⟨database, inStore, inDatabase⟩
  have files := inPlace.collections (collection, content)
    ((database.mem_toList_iff ..).2 inDatabase)
  rcases collectionKept?_cases isKept with isFile | isFile <;> rw [isFile] at asked present ⊢
  · exact ⟨_, ⟨collection, content, found, .inl ⟨rfl, rfl⟩⟩, files.documents.admitted.2,
      files.documents.present⟩
  · rw [isDocumentsFile_indexesFile] at asked
    have fileAdmitted := asked.resolve_left Bool.false_ne_true
    cases isEmpty : content.indexes.isEmpty with
    | true => exact absurd (files.noIndexes isEmpty fileAdmitted) present
    | false =>
        exact ⟨_, ⟨collection, content, found, .inr ⟨rfl, isEmpty, rfl⟩⟩, fileAdmitted,
          (files.indexes isEmpty).present⟩

/-- What stands in a file of a collection on the way is the text of one of the two stores. -/
theorem Between.fileText (between : Between old root place known store left)
    (holds : HoldsStore old root place earlier)
    (settled : Settled old root place (Knows earlier)) (admitted : Admits root name)
    (isKept : collectionKept? file ≠ none)
    (asked : isDocumentsFile file = true ∨ Admits (root.child name) file)
    (present : left.standing? (place ++ [name] ++ [file]) ≠ none) :
    ∃ text, (FileText earlier name file text ∨ FileText store name file text) ∧
      Admits (root.child name) file ∧
      left.standing? (place ++ [name] ++ [file]) = some (.file text.toUTF8) := by
  rcases between.whole name file isKept with gone | same | ⟨text, isText, fileAdmitted, renewed⟩
  · exact absurd gone present
  · rw [same] at present ⊢
    rcases holds.fileText settled admitted isKept asked present with
      ⟨text, isText, fileAdmitted, stands⟩
    exact ⟨text, .inl isText, fileAdmitted, stands⟩
  · exact ⟨text, .inr isText, fileAdmitted, renewed⟩

theorem FileText.documents {text : String} (isText : FileText store name file text)
    (isFile : isDocumentsFile file = true) :
    ∃ collection content, store.collection name collection = .ok content ∧
      file = documentsFile collection ∧ text = documentsText content := by
  rcases isText with ⟨collection, content, found, ⟨shape, isText⟩ | ⟨shape, -, -⟩⟩
  · exact ⟨collection, content, found, shape, isText⟩
  · rw [shape, isDocumentsFile_indexesFile] at isFile
    cases isFile

theorem FileText.indexes {collection text : String} (plain : HasPlainNames store)
    (isText : FileText store name (indexesFile collection) text) :
    ∃ content : Collection, text = indexesText content := by
  rcases isText with ⟨other, content, found, ⟨shape, -⟩ | ⟨-, -, isText⟩⟩
  · exact absurd shape.symm (documentsFile_ne_indexesFile (plain.isPlain_of_collection found) _)
  · exact ⟨content, isText⟩

/-! ## Loading a disk on the way -/

/-- Whether a collection has the documents, normalised, that a store has in it. -/
def HasDocumentsOf (store : Store) (database collection : String) (content : Collection) : Prop :=
  ∃ stored, store.collection database collection = .ok stored ∧
    content.documents = stored.normalised.documents

section Loading

variable [NumeralReader] [Json.ReadsBack] (holds : HoldsStore old root place earlier)
  (settled : Settled old root place (Knows earlier)) (savableEarlier : IsSavable earlier)
  (savable : IsSavable store) (reachableEarlier : earlier.Reachable)
  (reachable : store.Reachable) (between : Between old root place known store left)

include holds settled savableEarlier savable reachableEarlier reachable between

/-- A file of documents on the way is read with the documents of one of the two stores. -/
theorem Between.readCollection (isDirectory : left.standing? (place ++ [name]) = some .directory)
    (admitted : Admits root name) (isRead : IsRead left (place ++ [name]) file) :
    ∃ read, readCollection left (root.child name) file = .ok read ∧
      (HasDocumentsOf earlier name (collectionRead file) read ∨
        HasDocumentsOf store name (collectionRead file) read) := by
  have leads := between.settled.leads_child isDirectory admitted
  have indexes : ∀ collection, Admits (root.child name) (indexesFile collection) →
      left.standing? (place ++ [name] ++ [indexesFile collection]) = none ∨
        ∃ other : Collection, left.standing? (place ++ [name] ++ [indexesFile collection]) =
          some (.file (indexesText other).toUTF8) := by
    intro collection fileAdmitted
    by_cases gone : left.standing? (place ++ [name] ++ [indexesFile collection]) = none
    · exact .inl gone
    · have isKept : collectionKept? (indexesFile collection) ≠ none := by
        rw [collectionKept?_indexesFile]
        exact Option.some_ne_none _
      rcases between.fileText holds settled admitted isKept (.inr fileAdmitted) gone with
        ⟨text, ofEarlier | ofStore, -, stands⟩
      · rcases ofEarlier.indexes savableEarlier.plain with ⟨other, isText⟩
        exact .inr ⟨other, isText ▸ stands⟩
      · rcases ofStore.indexes savable.plain with ⟨other, isText⟩
        exact .inr ⟨other, isText ▸ stands⟩
  have isKept : collectionKept? file ≠ none := by
    rcases collectionKept?_of_isDocumentsFile isRead.2 with ⟨collection, isKept, -⟩
    rw [isKept]
    exact Option.some_ne_none _
  -- Whichever store the text is of, its documents are read from it.
  have reads : ∀ {whole : Store} {text : String}, IsSavable whole → whole.Reachable →
      Admits (root.child name) file → FileText whole name file text →
      left.standing? (place ++ [name] ++ [file]) = some (.file text.toUTF8) →
      ∃ read, DataDirectory.readCollection left (root.child name) file = .ok read ∧
        HasDocumentsOf whole name (collectionRead file) read := by
    intro whole text wholeSavable wholeReachable fileAdmitted isText stands
    rcases isText.documents isRead.2 with ⟨collection, content, found, isFile, isText⟩
    have plain := wholeSavable.plain.isPlain_of_collection found
    rw [isFile] at fileAdmitted stands ⊢
    rw [isText] at stands
    rcases documents_of_readCollection leads plain (wholeSavable.readable wholeReachable found)
      fileAdmitted stands (indexes collection) with ⟨read, isRead, documents⟩
    rw [collectionRead_documentsFile ((isPlain_iff _).1 plain).2.1]
    exact ⟨read, isRead, content, found, documents⟩
  rcases between.fileText holds settled admitted isKept (.inl isRead.2) isRead.1 with
    ⟨text, ofEarlier | ofStore, fileAdmitted, stands⟩
  · rcases reads savableEarlier reachableEarlier fileAdmitted ofEarlier stands with
      ⟨read, isRead, documents⟩
    exact ⟨read, isRead, .inl documents⟩
  · rcases reads savable reachable fileAdmitted ofStore stands with ⟨read, isRead, documents⟩
    exact ⟨read, isRead, .inr documents⟩

theorem Between.exists_load : ∃ again, load left root = .ok again := by
  apply between.settled.exists_load
  intro name isDirectory admitted
  apply exists_readDatabase (between.settled.leads_child isDirectory admitted) admitted.1
  intro file isRead
  rcases between.readCollection holds settled savableEarlier savable reachableEarlier reachable
    isDirectory admitted isRead with ⟨read, isRead, -⟩
  exact ⟨read, isRead⟩

end Loading

attribute [local instance] NumeralReader.nearest

end DocStore.DataDirectory
