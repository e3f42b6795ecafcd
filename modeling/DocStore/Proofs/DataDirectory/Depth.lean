import DocStore.Proofs.DataDirectory.Loading

/-!
Contract: how deeply the documents of a loaded store are nested.

A file of documents is a list, so each document in it is nested one level less
than a reader allows. Whatever was loaded can therefore be saved and loaded
again; a document that comes on its own may be too deep for that by one level.

Owns: `DataDirectory.Shallow` and its laws for reading.
-/

namespace DocStore.DataDirectory

theorem shallow_empty : Shallow Collection.empty := by
  intro key document found
  cases found

theorem Shallow.add {content next : Collection} {fresh key : String} {document : Document}
    (shallow : Shallow content) (bounded : document.toJson.depth ≤ depthLimit)
    (added : content.add fresh document = .ok (key, next)) : Shallow next := by
  rcases (Collection.add_eq_ok_iff ..).1 added with ⟨-, -, isNext⟩
  intro other found atOther
  rw [isNext] at atOther
  change (content.documents.insert key (document.withKey key)).find? other = some found at atOther
  rw [SortedMap.find?_insert] at atOther
  split at atOther
  · rw [← Option.some.inj atOther]
    exact Nat.le_trans (document.depth_withKey_le key) bounded
  · exact shallow other found atOther

/-- A document is stored with the depth that it was given with. -/
theorem depth_stored (document : OrderedDocument) {fresh key : String}
    (isKey : Collection.keyFor fresh document = .ok key) :
    (document.withKey key).toJson.depth = document.toJson.depth := by
  apply Document.depth_withKey
  intro value found
  rw [Collection.keyFor, Document.get?_keyField, found] at isKey
  cases value with
  | string text => rfl
  | _ => cases isKey

theorem shallow_of_addEach (items : List Json) :
    ∀ {content final : Collection} {skipped total : Nat}, Shallow content →
      (∀ item ∈ items, item.depth ≤ depthLimit) →
      addEach content skipped items = .ok (final, total) → Shallow final := by
  induction items with
  | nil =>
      intro content final skipped total shallow _ added
      cases added
      exact shallow
  | cons item rest inductionHypothesis =>
      intro content final skipped total shallow bounded added
      have restBounded : ∀ other ∈ rest, other.depth ≤ depthLimit :=
        fun other member => bounded other (List.mem_cons_of_mem _ member)
      rw [addEach] at added
      rcases bind_eq_ok_iff.1 added with ⟨document, read, added⟩
      have documentBounded : document.toJson.depth ≤ depthLimit := by
        rw [Document.depth_of_ofJson read]
        exact bounded item (List.mem_cons_self ..)
      split at added
      next => exact inductionHypothesis shallow restBounded added
      next =>
        rcases bind_eq_ok_iff.1 added with ⟨⟨_, next⟩, step, added⟩
        exact inductionHypothesis (shallow.add documentBounded step) restBounded added

variable [NumeralReader]

/-- The list that holds the documents of a file takes up one level. -/
theorem shallow_of_documentsOfText {text : String} {content : Collection} {skipped : Nat}
    (read : documentsOfText text = .ok (content, skipped)) : Shallow content := by
  unfold documentsOfText at read
  split at read
  next items parsed =>
    have bounded := Json.depth_le_of_parse? parsed
    rw [Json.depth] at bounded
    exact shallow_of_addEach items shallow_empty
      ((Json.itemsDepth_le_iff ..).1 (Nat.le_of_succ_le_succ bounded)) read
  next => cases read

/-- Building indexes leaves the documents alone. -/
theorem documents_of_readIndexes {disk : Disk} {file : Location} {collection content : Collection}
    (read : readIndexes disk file collection = .ok content) :
    content.documents = collection.documents := by
  unfold readIndexes at read
  split at read
  · rw [bind_eq_ok_iff] at read
    rcases read with ⟨_, -, read⟩
    rw [bind_eq_ok_iff] at read
    rcases read with ⟨fields, -, isContent⟩
    rw [← Except.ok.inj isContent]
    exact (Collection.documents_buildIndexes ..).1
  · rw [Except.ok.inj read]

theorem shallow_of_readCollection {disk : Disk} {directory : Location} {name : String}
    {content : Collection} (read : readCollection disk directory name = .ok content) :
    Shallow content := by
  unfold readCollection at read
  rw [bind_eq_ok_iff] at read
  rcases read with ⟨⟨documents, _⟩, ofFile, ofIndexes⟩
  unfold readDocuments at ofFile
  rw [bind_eq_ok_iff] at ofFile
  rcases ofFile with ⟨text, -, ofText⟩
  unfold Shallow
  rw [documents_of_readIndexes ofIndexes]
  exact shallow_of_documentsOfText ofText

/-- Every collection of a loaded store was read from a file of its database. -/
theorem Settled.exists_file_of_load {disk : Disk} {root : Location} {place : Place}
    {known : String → Prop} {store : Store} {database collection : String} {content : Collection}
    (settled : Settled disk root place known) (loaded : load disk root = .ok store)
    (found : store.collection database collection = .ok content) :
    Disk.Admits root database ∧ ∃ file, IsRead disk (place ++ [database]) file ∧
      collectionRead file = collection ∧
        readCollection disk (root.child database) file = .ok content := by
  rcases (Store.collection_eq_ok_iff ..).1 found with ⟨collections, inStore, inDatabase⟩
  rcases settled.find?_load loaded database with
    ⟨⟨isDirectory, admitted⟩, read, isRead, same⟩ | ⟨-, absent⟩
  · rw [inStore, Option.some.injEq] at same
    rw [← same] at isRead
    rcases find?_readDatabase (settled.leads_child isDirectory admitted) admitted.1 isRead
      collection with ⟨file, fileRead, isCollection, other, otherRead, otherFound⟩ | ⟨-, absent⟩
    · rw [inDatabase, Option.some.injEq] at otherFound
      rw [otherFound]
      exact ⟨admitted, file, fileRead, isCollection, otherRead⟩
    · rw [inDatabase] at absent
      cases absent
  · rw [inStore] at absent
    cases absent

/-- Every document of a loaded store is nested within the limit for stored documents. -/
theorem Settled.shallow_of_load {disk : Disk} {root : Location} {place : Place}
    {known : String → Prop} {store : Store} (settled : Settled disk root place known)
    (loaded : load disk root = .ok store) : store.Every Shallow := by
  intro database collection content found
  rcases settled.exists_file_of_load loaded found with ⟨-, file, -, -, read⟩
  exact shallow_of_readCollection read

end DocStore.DataDirectory
