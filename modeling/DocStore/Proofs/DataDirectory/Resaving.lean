import DocStore.Proofs.DataDirectory.Opening
import DocStore.Proofs.DataDirectory.Recovery
import DocStore.Proofs.Json.Decoding
import DocStore.Proofs.Value.Equality

/-!
Contract: a directory that is opened and saved again keeps its documents.

Opening takes over the elements with a key of every file that is read as a
collection; the rest are passed over. Saving writes what was taken over to the
file of the collection, every number as the double that it was read as. At every
stop of the save the file has its old or its whole new text, so no element with
a key is ever missing. This is so for files that a plain name leads to and that
no other file beside them is read for. What happens to the others depends on
which file of a name is listed last and on what the sweep takes them for.

Owns: `DataDirectory.elementsAt?`, `DataDirectory.IsCollectionFile`,
`DataDirectory.Keeps`, `DataDirectory.IsRewritten`, and saving a store where it was
opened.
-/

namespace DocStore

/-! ## Elements with a key -/

theorem Value.string?_ofJson (json : Json) : (ofJson json).string? = json.string? := by
  cases json <;> rfl

namespace DataDirectory

open Disk Work

/-- Whether an element of a file of documents has a text for its key. -/
def isKeyed : Json → Bool
  | .object members => ((Entries.find? Document.keyField members).bind Json.string?).isSome
  | _ => false

/-- An element as it is written once it has been read. -/
def rewritten (element : Json) : Json := (Value.ofJson element).toJson

theorem isSome_key?_of_ofJson {element : Json} {document : Document}
    (read : Document.ofJson element = .ok document) :
    document.key?.isSome = isKeyed element := by
  cases element with
  | object members =>
      rw [← Except.ok.inj read, isKeyed, Document.key?, Value.fieldsOfJson_eq_map,
        Entries.find?_map]
      cases Entries.find? Document.keyField members with
      | none => rfl
      | some value => exact congrArg Option.isSome (Value.string?_ofJson value)
  | _ => cases read

theorem toJson_of_ofJson {element : Json} {document : Document}
    (read : Document.ofJson element = .ok document) : document.toJson = rewritten element :=
  congrArg Value.toJson (Document.toValue_of_ofJson read)

/-- An element that has been read and written has the same fields, with doubles for numbers. -/
theorem equals_rewritten {element : Json} (faithful : element.isFaithful = true) :
    (Value.ofJson (rewritten element)).equals (Value.ofJson element) = true := by
  rw [rewritten, Value.ofJson_toJson]
  exact Value.equals_normalised _ (Value.isFinite_ofJson element faithful)

/-! ## Files of documents -/

/-- The documents of a collection as elements of a file. -/
def elementsOf (content : Collection) : List Json := content.documents.values.map Document.toJson

/-- What is kept of the elements of a file, but for its order. -/
def keyedElements (elements : List Json) : List Json :=
  (elements.filter isKeyed).map rewritten

theorem keyedElements_cons (element : Json) (rest : List Json) :
    keyedElements (element :: rest) =
      if isKeyed element then rewritten element :: keyedElements rest else keyedElements rest := by
  unfold keyedElements
  cases keyed : isKeyed element <;> simp [keyed]

theorem perm_of_add {content next : Collection} {element : Json} {document : Document}
    {key stored : String} (ordered : element.isOrdered = true)
    (read : Document.ofJson element = .ok document) (isKey : document.key? = some key)
    (added : content.add key document = .ok (stored, next)) :
    (elementsOf next).Perm (rewritten element :: elementsOf content) := by
  rcases (Collection.add_eq_ok_iff ..).1 added with ⟨isStored, absent, isNext⟩
  rw [Collection.keyFor_of_key? isKey, Except.ok.injEq] at isStored
  have sorted : Entries.Sorted document.fields :=
    OrderedDocument.sorted_fields ⟨document, Document.isOrdered_of_ofJson ordered read⟩
  rw [← isStored] at absent isNext
  rw [isNext, Document.withKey_of_key? sorted isKey, ← toJson_of_ofJson read]
  exact ((Entries.perm_insert_of_absent document absent).map Prod.snd).map Document.toJson

theorem perm_of_addEach (elements : List Json) :
    ∀ {content final : Collection} {skipped total : Nat},
      (∀ element ∈ elements, element.isOrdered = true) →
      addEach content skipped elements = .ok (final, total) →
      (elementsOf final).Perm (elementsOf content ++ keyedElements elements) := by
  induction elements with
  | nil =>
      intro content final skipped total _ added
      cases added
      exact List.Perm.of_eq (List.append_nil _).symm
  | cons element rest inductionHypothesis =>
      intro content final skipped total ordered added
      have restOrdered : ∀ other ∈ rest, other.isOrdered = true :=
        fun other member => ordered other (List.mem_cons_of_mem _ member)
      rw [addEach] at added
      rcases bind_eq_ok_iff.1 added with ⟨document, read, added⟩
      rw [keyedElements_cons, ← isSome_key?_of_ofJson read]
      split at added
      next noKey =>
        rw [noKey]
        exact inductionHypothesis restOrdered added
      next key isKey =>
        rcases bind_eq_ok_iff.1 added with ⟨⟨stored, next⟩, step, added⟩
        have grown := perm_of_add (ordered element List.mem_cons_self) read isKey step
        rw [isKey]
        exact ((inductionHypothesis restOrdered added).trans (grown.append_right _)).trans
          List.perm_middle.symm

/-- Every element with a key is still there, each number as the double that it is read as. -/
def Keeps (elements kept : List Json) : Prop :=
  ∀ element ∈ elements, isKeyed element = true →
    ∃ other ∈ kept, (Value.ofJson other).equals (Value.ofJson element) = true

theorem keeps_of_perm {elements kept : List Json}
    (faithful : ∀ element ∈ elements, element.isFaithful = true)
    (perm : kept.Perm (keyedElements elements)) : Keeps elements kept := by
  intro element member keyed
  have isKept : rewritten element ∈ keyedElements elements :=
    List.mem_map_of_mem (List.mem_filter.2 ⟨member, keyed⟩)
  exact ⟨rewritten element, perm.mem_iff.2 isKept, equals_rewritten (faithful element member)⟩

/-! ## The files of a data directory -/

/-- A file of a data directory that is named like the documents of a collection, whether or not
the root is opened with it. -/
structure IsCollectionFile (disk : Disk) (root : Location) (database file : String) : Prop where
  inDatabases : ∃ databases, databaseDirectories disk root = .ok databases ∧ database ∈ databases
  inFiles : ∃ names, disk.list (root.child database) = .ok names ∧ file ∈ names
  ending : Text.endsWith file documentsEnding = true

variable {disk left : Disk} {root : Location} {place : Place} {known : String → Prop}
  {store : Store} {database collection : String} {content : Collection}

theorem Settled.isCollectionFile_iff (settled : Settled disk root place known) {file : String} :
    IsCollectionFile disk root database file ↔
      disk.standing? (place ++ [database]) = some .directory ∧ Admits root database ∧
        disk.standing? (place ++ [database] ++ [file]) ≠ none ∧
        Text.endsWith file documentsEnding = true := by
  rcases settled.databaseDirectories with ⟨databases, areDatabases, databaseMembers⟩
  constructor
  · rintro ⟨⟨names, areNames, listed⟩, ⟨files, areFiles, inFiles⟩, ending⟩
    rw [areDatabases, Except.ok.injEq] at areNames
    rw [← areNames] at listed
    rcases (databaseMembers database).1 listed with ⟨isDirectory, admitted⟩
    have leads := settled.leads_child isDirectory admitted
    exact ⟨isDirectory, admitted, (leads.mem_list_iff areFiles file).1 inFiles, ending⟩
  · rintro ⟨isDirectory, admitted, present, ending⟩
    have leads := settled.leads_child isDirectory admitted
    rcases list_of_directory (leads.resolve admitted.1) leads.isDirectory with
      ⟨names, areNames, members⟩
    exact ⟨⟨databases, areDatabases, (databaseMembers database).2 ⟨isDirectory, admitted⟩⟩,
      ⟨names, areNames, (members file).2 present⟩, ending⟩

theorem IsCollectionFile.exists?_root {file : String}
    (isFile : IsCollectionFile disk root database file) : disk.exists? root = true := by
  rcases isFile.inDatabases with ⟨databases, areDatabases, -⟩
  unfold databaseDirectories onDisk at areDatabases
  rcases bind_eq_ok_iff.1 areDatabases with ⟨names, listed, -⟩
  cases isList : disk.list root with
  | error fault =>
      rw [isList] at listed
      cases listed
  | ok found =>
      rcases directory_of_list isList with ⟨place, resolved, isDirectory, -⟩
      refine (exists?_eq_true_iff ..).2 ⟨place, resolved, ?_⟩
      rw [isDirectory]
      exact Option.some_ne_none _

section

variable [NumeralReader]

/-! ## Reading a file -/

/-- The elements of a file of documents. -/
def elementsAt? (disk : Disk) (file : Location) : Option (List Json) :=
  (disk.readText file).toOption.bind fun text => (Json.parse? text).bind Json.items

theorem elementsAt?_eq_some_iff (disk : Disk) (file : Location) (elements : List Json) :
    elementsAt? disk file = some elements ↔
      ∃ text, disk.readText file = .ok text ∧ Json.parse? text = some (.array elements) := by
  unfold elementsAt?
  cases disk.readText file with
  | error fault => simp [Except.toOption]
  | ok text =>
      simp only [Except.toOption, Option.bind_some, Except.ok.injEq, exists_eq_left',
        Option.bind_eq_some_iff]
      constructor
      · rintro ⟨json, parsed, isItems⟩
        cases json with
        | array items =>
            rw [← Option.some.inj isItems]
            exact parsed
        | _ => cases isItems
      · exact fun parsed => ⟨_, parsed, rfl⟩

/-- The documents that are read off a file are its elements with a key. -/
theorem perm_of_readCollection {disk : Disk} {directory : Location} {name : String}
    {content : Collection} {elements : List Json}
    (has : elementsAt? disk (directory.child name) = some elements)
    (read : readCollection disk directory name = .ok content) :
    (elementsOf content).Perm (keyedElements elements) := by
  rcases (elementsAt?_eq_some_iff ..).1 has with ⟨text, isText, parsed⟩
  unfold readCollection at read
  rcases bind_eq_ok_iff.1 read with ⟨⟨documents, skipped⟩, ofFile, ofIndexes⟩
  unfold readDocuments documentsOfText at ofFile
  rw [isText] at ofFile
  rcases bind_eq_ok_iff.1 ofFile with ⟨_, same, added⟩
  rw [← Except.ok.inj same, parsed] at added
  have ordered := Json.isOrdered_of_parse? parsed
  rw [Json.isOrdered, Json.itemsOrdered_iff] at ordered
  unfold elementsOf
  rw [documents_of_readIndexes ofIndexes]
  exact perm_of_addEach elements ordered added

theorem exists_elementsAt?_of_readCollection {disk : Disk} {directory : Location} {name : String}
    {content : Collection} (read : readCollection disk directory name = .ok content) :
    ∃ elements, elementsAt? disk (directory.child name) = some elements := by
  rcases exists_readDocuments read with ⟨documents, isRead⟩
  unfold readDocuments at isRead
  rcases bind_eq_ok_iff.1 isRead with ⟨text, ofFile, isDocuments⟩
  unfold onDisk at ofFile
  cases isText : disk.readText (directory.child name) with
  | error fault =>
      rw [isText] at ofFile
      cases ofFile
  | ok found =>
      rw [isText] at ofFile
      cases ofFile
      unfold documentsOfText at isDocuments
      split at isDocuments
      next items parsed => exact ⟨items, (elementsAt?_eq_some_iff ..).2 ⟨_, isText, parsed⟩⟩
      next => cases isDocuments

/-- Where numbers are read back, a file with the text of a collection has its documents for
elements. -/
theorem elementsAt?_of_readText [Json.ReadsBack] {disk : Disk} {file : Location}
    {content : Collection} (isText : disk.readText file = .ok (documentsText content))
    (ordered : content.Ordered) (shallow : Shallow content) :
    elementsAt? disk file = some (elementsOf content) :=
  (elementsAt?_eq_some_iff ..).2 ⟨documentsText content, isText,
    Json.parse?_pretty (isFaithful_documentsData ordered)
      ((depth_documentsData_le_iff content).2 shallow)⟩

/-- A file that has been written with the elements with a key of an older one, and no others. -/
structure IsRewritten (disk : Disk) (file : Location) (elements kept : List Json) : Prop where
  text : disk.readText file = .ok (Json.array kept).pretty
  perm : kept.Perm (keyedElements elements)
  keeps : Keeps elements kept
  readBack : ∀ [Json.ReadsBack], elementsAt? disk file = some kept

theorem isRewritten_of_readText {old disk : Disk} {directory : Location} {name : String}
    {content : Collection} {elements : List Json}
    (has : elementsAt? old (directory.child name) = some elements)
    (read : readCollection old directory name = .ok content)
    (ordered : content.Ordered) (shallow : Shallow content)
    (isText : disk.readText (directory.child name) = .ok (documentsText content)) :
    IsRewritten disk (directory.child name) elements (elementsOf content) where
  text := isText
  perm := perm_of_readCollection has read
  keeps := by
    rcases (elementsAt?_eq_some_iff ..).1 has with ⟨text, -, parsed⟩
    exact keeps_of_perm ((Json.isFaithful_array_iff elements).1 (Json.isFaithful_of_parse? parsed))
      (perm_of_readCollection has read)
  readBack := elementsAt?_of_readText isText ordered shallow

/-! ## What is opened from a file -/

/-- A collection with a plain name, and its file, which it was opened from and is saved to. -/
structure Sources (disk : Disk) (root : Location) (place : Place) (store : Store)
    (database collection : String) (content : Collection) : Prop where
  isDirectory : disk.standing? (place ++ [database]) = some .directory
  admitted : Admits root database
  plain : isPlain collection = true
  isRead : IsRead disk (place ++ [database]) (documentsFile collection)
  found : store.collection database collection = .ok content
  read : readCollection disk (root.child database) (documentsFile collection) = .ok content

theorem Settled.exists_sources (settled : Settled disk root place known)
    (opened : load disk root = .ok store)
    (isFile : IsCollectionFile disk root database (documentsFile collection))
    (plain : isPlain collection = true)
    (alone : ∀ other, IsCollectionFile disk root database other →
      collectionRead other = collection → other = documentsFile collection) :
    ∃ content, Sources disk root place store database collection content := by
  rcases settled.isCollectionFile_iff.1 isFile with ⟨isDirectory, admitted, present, -⟩
  have isRead : IsRead disk (place ++ [database]) (documentsFile collection) :=
    ⟨present, isDocumentsFile_documentsFile plain⟩
  have isCollection : collectionRead (documentsFile collection) = collection :=
    collectionRead_documentsFile ((isPlain_iff collection).1 plain).2.1
  rcases settled.find?_load opened database with
    ⟨-, collections, ofDirectory, inStore⟩ | ⟨noDirectory, -⟩
  · rcases find?_readDatabase (settled.leads_child isDirectory admitted) admitted.1 ofDirectory
      collection with ⟨other, otherRead, isOther, content, read, inDatabase⟩ | ⟨absent, -⟩
    · -- A file that is read later under the same name would have replaced this one.
      rcases collectionKept?_of_isDocumentsFile otherRead.2 with ⟨stem, -, isStem⟩
      have same : other = documentsFile collection :=
        alone other (settled.isCollectionFile_iff.2 ⟨isDirectory, admitted, otherRead.1,
          (Text.endsWith_iff ..).2 ⟨stem, isStem⟩⟩) isOther
      rw [same] at read
      exact ⟨content, isDirectory, admitted, plain, isRead,
        (Store.collection_eq_ok_iff ..).2 ⟨collections, inStore, inDatabase⟩, read⟩
    · exact absurd isCollection (absent _ isRead)
  · exact absurd ⟨isDirectory, admitted⟩ noDirectory

theorem Settled.hasNameParts_of_load (settled : Settled disk root place known)
    (opened : load disk root = .ok store) :
    ∀ entry ∈ store.databases.toList, HasNameParts entry.2 := by
  intro entry member inner innerMember
  rcases settled.exists_file_of_load opened (collection_of_mem member innerMember) with
    ⟨-, file, isRead, isCollection, -⟩
  rw [← isCollection]
  exact isNamePart_collectionRead (settled.isName_of_isRead isRead)

/-! ## Saving where a store was opened -/

/-- On the way, a collection's file has its old text or the text of the collection. -/
theorem Between.readText (between : Between disk root place known store left)
    (settled : Settled disk root place known)
    (sources : Sources disk root place store database collection content) {text : String}
    (isText : disk.readText ((root.child database).child (documentsFile collection)) = .ok text) :
    left.readText ((root.child database).child (documentsFile collection)) = .ok text ∨
      left.readText ((root.child database).child (documentsFile collection)) =
        .ok (documentsText content) := by
  have named := settled.isName_of_isRead sources.isRead
  have isThere := between.kept database collection content sources.found sources.plain
    sources.isRead.1
  have leads := between.settled.leads_child (standing?_below_eq_directory isThere)
    sources.admitted
  rcases between.whole database _ (collectionKept?_documentsFile_ne_none collection) with
    gone | same | ⟨renewedText, isFileText, admitted, renewed⟩
  · exact absurd gone isThere
  · -- What was read off the old disk tells what stands in the file on both.
    rcases file_of_readText isText with ⟨reached, resolved, stands⟩
    rcases ((settled.leads_child sources.isDirectory sources.admitted).resolve_child_eq_ok_iff
      named _).1 resolved with ⟨admitted, isReached⟩
    rw [isReached, ← same] at stands
    exact .inl (readText_of_present leads named admitted stands)
  · rcases isFileText.documents sources.isRead.2 with ⟨other, stored, found, isOther, isStored⟩
    rw [documentsFile_inj] at isOther
    rw [← isOther, sources.found, Except.ok.injEq] at found
    rw [isStored, ← found] at renewed
    exact .inr (readText_of_present leads named admitted renewed)

/-- A save that succeeds leaves the text of a collection in its file. -/
theorem Sources.readText_of_save {after : Session}
    (sources : Sources disk root place store database collection content)
    (settled : Settled disk root place (Knows store)) (named : HasNames store)
    (parts : ∀ entry ∈ store.databases.toList, HasNameParts entry.2)
    (saved : (save store root).Ends (Session.start disk) () after) :
    after.disk.readText ((root.child database).child (documentsFile collection)) =
      .ok (documentsText content) := by
  have settledAfter : Settled after.disk root place (Knows store) :=
    Settled.of_save settled named saved
  rcases (Store.collection_eq_ok_iff ..).1 sources.found with ⟨collections, inStore, inDatabase⟩
  have holds := save_documents settled named parts saved (database, collections)
    ((store.databases.mem_toList_iff ..).2 inStore) (collection, content)
    ((collections.mem_toList_iff ..).2 inDatabase) sources.plain
  have isThere : after.disk.standing? (place ++ [database] ++ [documentsFile collection]) ≠ none :=
    holds.present ▸ Option.some_ne_none _
  exact readText_of_present
    (settledAfter.leads_child (standing?_below_eq_directory isThere) sources.admitted)
    (settled.isName_of_isRead sources.isRead) holds.admitted.2 holds.present

/-- A store is saved back to the root that it was opened from. Take a file of documents with a plain
name, where no other file of its database is read under that name. Wherever the save stops, the file
is as it was or has been written with its elements with a key and no others, and when the save
succeeds, it has been written. -/
theorem keeps_of_load_of_save (named : disk.root.isNamed = true)
    (opened : load disk root = .ok store)
    (isFile : IsCollectionFile disk root database (documentsFile collection))
    (plain : isPlain collection = true)
    (alone : ∀ other, IsCollectionFile disk root database other →
      collectionRead other = collection → other = documentsFile collection) :
    ∃ elements,
      elementsAt? disk ((root.child database).child (documentsFile collection)) =
        some elements ∧
      (∀ left, disk.Left ((save store root).runOn disk).2.performed left →
        left.readText ((root.child database).child (documentsFile collection)) =
            disk.readText ((root.child database).child (documentsFile collection)) ∨
          ∃ kept, IsRewritten left ((root.child database).child (documentsFile collection))
            elements kept) ∧
      ∀ session, (save store root).runOn disk = (.ok (), session) →
        ∃ kept, IsRewritten session.disk
          ((root.child database).child (documentsFile collection)) elements kept := by
  rcases settled_of_opened named isFile.exists?_root opened with ⟨place, settled⟩
  rcases settled.exists_sources opened isFile plain alone with ⟨content, sources⟩
  rcases exists_elementsAt?_of_readCollection sources.read with ⟨elements, has⟩
  have parts := settled.hasNameParts_of_load opened
  have storeNamed := (hasNames_of_opened named opened).1
  have shallow := settled.shallow_of_load opened _ _ _ sources.found
  have ordered := every_load Collection.closed_ordered opened _ _ _ sources.found
  refine ⟨elements, has, fun left stops => ?_, fun session saved => ?_⟩
  · have start : Between disk root place (Knows store) store disk :=
      ⟨settled, fun _ _ _ => .inr (.inl rfl), fun _ _ _ _ _ present => present⟩
    have guards : Guards _ (save store root) (Session.start disk) :=
      guards_save parts storeNamed (fun _ isKnown => isKnown) start
    rcases (elementsAt?_eq_some_iff ..).1 has with ⟨text, isText, -⟩
    rcases (guards.of_left stops).readText settled sources isText with same | renewed
    · exact .inl (same.trans isText.symm)
    · exact .inr ⟨_, isRewritten_of_readText has sources.read ordered shallow renewed⟩
  · have renewed := sources.readText_of_save settled storeNamed parts saved
    exact ⟨_, isRewritten_of_readText has sources.read ordered shallow renewed⟩

end

private def pantryRoot : Location := ⟨["data"]⟩

private def pantryFile : Location := (pantryRoot.child "pantry").child "jars.json"

/-- A disk with a file of two documents, the second without a key, and with other files beside
it. -/
private def pantryWith (others : List (String × Node)) : Disk :=
  ⟨[("data", .directory [("pantry", .directory (("jars.json", .file
    "[\x7b\"_id\":\"a\",\"n\":9007199254740993\x7d,\x7b\"n\":2\x7d]".toUTF8) :: others))])]⟩

private theorem pantry_isCollectionFile {others : List (String × Node)}
    (databases : databaseDirectories (pantryWith others) pantryRoot = .ok ["pantry"])
    {names : List String}
    (files : (pantryWith others).list (pantryRoot.child "pantry") = .ok ("jars.json" :: names)) :
    IsCollectionFile (pantryWith others) pantryRoot "pantry" "jars.json" :=
  ⟨⟨["pantry"], databases, List.mem_singleton_self _⟩, ⟨_, files, List.mem_cons_self⟩,
    by decide +kernel⟩

/-- Files that are not read, or are read under a name that another file would be saved to. -/
private def crowdedPantry : Disk :=
  pantryWith [(".json", .file "[]".toUTF8), ("old.indexes.json", .file "[]".toUTF8),
    ("tins.json.json", .file "[]".toUTF8)]

private theorem crowdedPantry_files : crowdedPantry.list (pantryRoot.child "pantry") =
    .ok ["jars.json", ".json", "old.indexes.json", "tins.json.json"] :=
  eq_ok_of_toOption (by decide +kernel)

/-- The first of the two elements is kept, whenever the save of the pantry stops. -/
theorem keeps_of_load_of_save_pantry : ∃ store elements,
    load crowdedPantry pantryRoot = .ok store ∧
      IsCollectionFile crowdedPantry pantryRoot "pantry" "jars.json" ∧
      elementsAt? crowdedPantry pantryFile = some elements ∧
      elements.map isKeyed = [true, false] ∧
      (∀ left, crowdedPantry.Left
          ((save store pantryRoot).runOn crowdedPantry).2.performed left →
        left.readText pantryFile = crowdedPantry.readText pantryFile ∨
          ∃ kept, IsRewritten left pantryFile elements kept) ∧
      ∃ session kept, (save store pantryRoot).runOn crowdedPantry = (.ok (), session) ∧
        IsRewritten session.disk pantryFile elements kept := by
  have answers : ((load crowdedPantry pantryRoot).toOption.bind fun store =>
      (elementsAt? crowdedPantry pantryFile).map fun elements =>
        (((save store pantryRoot).runOn crowdedPantry).1.toOption, elements.map isKeyed)) =
          some (some (), [true, false]) := by
    decide +kernel
  rcases Option.bind_eq_some_iff.1 answers with ⟨store, isStore, answers⟩
  rcases Option.map_eq_some_iff.1 answers with ⟨elements, has, answers⟩
  rcases Prod.mk.inj answers with ⟨succeeds, keyed⟩
  have opened : load crowdedPantry pantryRoot = .ok store := eq_ok_of_toOption isStore
  have isFile : IsCollectionFile crowdedPantry pantryRoot "pantry" "jars.json" :=
    pantry_isCollectionFile (eq_ok_of_toOption (by decide +kernel)) crowdedPantry_files
  have alone : ∀ other, IsCollectionFile crowdedPantry pantryRoot "pantry" other →
      collectionRead other = "jars" → other = documentsFile "jars" := by
    rintro other ⟨-, ⟨names, areNames, member⟩, -⟩
    rw [crowdedPantry_files, Except.ok.injEq] at areNames
    rw [← areNames] at member
    revert other
    decide +kernel
  rcases keeps_of_load_of_save (by decide +kernel) opened isFile (by decide +kernel) alone with
    ⟨found, isFound, stopped, saved⟩
  have same : found = elements := Option.some.inj (isFound.symm.trans has)
  rw [same] at stopped saved
  have ends := eq_of_toOption _ succeeds
  rcases saved _ ends with ⟨kept, isRewritten⟩
  exact ⟨store, elements, opened, isFile, has, keyed, stopped, _, kept, ends, isRewritten⟩

/-- Whether an object among the elements of a file equals none of those that were kept. -/
private def losesObject (elements kept : List Json) : Bool :=
  elements.any fun
    | .object members =>
        kept.all fun other => !(Value.ofJson other).equals (Value.ofJson (.object members))
    | _ => false

/-- The second element is an object too, but the save of what was opened takes it out of the file,
as it was passed over. The number of the first is not a double, and its neighbour is written. -/
theorem load_save_keyless : ∃ store session elements kept members,
    load (pantryWith []) pantryRoot = .ok store ∧
      (save store pantryRoot).runOn (pantryWith []) = (.ok (), session) ∧
      IsCollectionFile (pantryWith []) pantryRoot "pantry" "jars.json" ∧
      elementsAt? (pantryWith []) pantryFile = some elements ∧ .object members ∈ elements ∧
      elementsAt? session.disk pantryFile = some kept ∧
      (∀ other ∈ kept, (Value.ofJson other).equals (Value.ofJson (.object members)) = false) ∧
      (pantryWith []).readText pantryFile =
        .ok "[\x7b\"_id\":\"a\",\"n\":9007199254740993\x7d,\x7b\"n\":2\x7d]" ∧
      session.disk.readText pantryFile =
        .ok "[\n  \x7b\n    \"_id\": \"a\",\n    \"n\": 9007199254740992.0\n  \x7d\n]" := by
  have answers : ((load (pantryWith []) pantryRoot).toOption.bind fun store =>
      (elementsAt? (pantryWith []) pantryFile).bind fun elements =>
        (elementsAt? ((save store pantryRoot).runOn (pantryWith [])).2.disk pantryFile).map
          fun kept => (((save store pantryRoot).runOn (pantryWith [])).1.toOption,
            losesObject elements kept,
            (((save store pantryRoot).runOn (pantryWith [])).2.disk.readText
              pantryFile).toOption)) =
      some (some (), true,
        some "[\n  \x7b\n    \"_id\": \"a\",\n    \"n\": 9007199254740992.0\n  \x7d\n]") := by
    decide +kernel
  rcases Option.bind_eq_some_iff.1 answers with ⟨store, isStore, answers⟩
  rcases Option.bind_eq_some_iff.1 answers with ⟨elements, before, answers⟩
  rcases Option.map_eq_some_iff.1 answers with ⟨kept, after, answers⟩
  rcases Prod.mk.inj answers with ⟨succeeds, answers⟩
  rcases Prod.mk.inj answers with ⟨loses, written⟩
  rcases List.any_eq_true.1 loses with ⟨element, member, isLost⟩
  have files : (pantryWith []).list (pantryRoot.child "pantry") = .ok ["jars.json"] :=
    eq_ok_of_toOption (by decide +kernel)
  have isFile : IsCollectionFile (pantryWith []) pantryRoot "pantry" "jars.json" :=
    pantry_isCollectionFile (eq_ok_of_toOption (by decide +kernel)) files
  cases element with
  | object members =>
      refine ⟨store, _, elements, kept, members, eq_ok_of_toOption isStore,
        eq_of_toOption _ succeeds, isFile, before, member, after, fun other isKept => ?_,
        eq_ok_of_toOption (by decide +kernel), eq_ok_of_toOption written⟩
      simpa using List.all_eq_true.1 isLost other isKept
  | _ => cases isLost

end DataDirectory

end DocStore
