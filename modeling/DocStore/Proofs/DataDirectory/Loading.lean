import DocStore.Proofs.DataDirectory.Contents
import DocStore.Proofs.DataDirectory.Saving

/-!
Contract: what is loaded from a disk that holds a store.

The files of a collection are read back as the collection normalised. Walking
the files of a directory reads every collection of its database and no other,
and walking the directories below a settled root reads every database.

Owns: what `load` reads, and `load` of a disk that holds a store.
-/

namespace DocStore.DataDirectory

open Disk

variable {disk : Disk} {directory root : Location} {place : Place}

/-! ## Files and directories -/

theorem readText_of_present {file text : String} (leads : disk.Leads directory place)
    (named : isName file = true) (admitted : Admits directory file)
    (present : disk.standing? (place ++ [file]) = some (.file text.toUTF8)) :
    disk.readText (directory.child file) = .ok text :=
  readText_of_file ((leads.resolve_child_eq_ok_iff named _).2 ⟨admitted, rfl⟩) present

/-- A file that stands in a directory and is read as documents. -/
def IsRead (disk : Disk) (place : Place) (file : String) : Prop :=
  disk.standing? (place ++ [file]) ≠ none ∧ isDocumentsFile file = true

theorem Settled.isName_of_isRead {known : String → Prop} {database file : String}
    (settled : Settled disk root place known) (isRead : IsRead disk (place ++ [database]) file) :
    isName file = true := by
  have present := isRead.1
  rw [List.append_assoc] at present
  exact settled.named _ present file (by simp)

theorem exists_documentsFiles (leads : disk.Leads directory place)
    (allowed : checkLocation directory = .ok ()) :
    ∃ files, documentsFiles disk directory = .ok files ∧
      ∀ file, file ∈ files ↔ IsRead disk place file := by
  rcases list_of_directory (leads.resolve allowed) leads.isDirectory with ⟨names, listed, members⟩
  refine ⟨names.filter isDocumentsFile, ?_, fun file => ?_⟩
  · unfold documentsFiles
    rw [listed]
    rfl
  · rw [List.mem_filter, members]
    exact Iff.rfl

/-- Where no file is stale, the files that are read are those of the database's collections. -/
theorem Cleared.documentsFile_of_isRead {name file : String} {database : Database}
    (cleared : Cleared disk root place name database)
    (isRead : IsRead disk (place ++ [name]) file) :
    ∃ collection content, database.find? collection = some content ∧
      file = documentsFile collection := by
  rcases collectionKept?_of_isDocumentsFile isRead.2 with ⟨collection, isKept, isFile⟩
  rcases exists_content_of_not_stale (cleared.swept file isRead.1) isKept with ⟨content, found⟩
  exact ⟨collection, content, found, isFile⟩

/-- Where names are plain as well, a collection is read from its own file only. -/
theorem Cleared.eq_documentsFile {name file collection : String} {database : Database}
    (cleared : Cleared disk root place name database) (plain : PlainlyNamed database)
    (isRead : IsRead disk (place ++ [name]) file)
    (isCollection : collectionRead file = collection) : file = documentsFile collection := by
  rcases cleared.documentsFile_of_isRead isRead with ⟨owner, content, owned, isFile⟩
  have ownerPlain : isPlain owner = true :=
    plain (owner, content) ((database.mem_toList_iff owner content).2 owned)
  rw [isFile, collectionRead_documentsFile ((isPlain_iff owner).1 ownerPlain).2.1] at isCollection
  rw [isFile, isCollection]

variable {known : String → Prop}

/-- The directories below a settled root are the places that hold one and can be asked for. -/
theorem Settled.databaseDirectories (settled : Settled disk root place known) :
    ∃ names, DataDirectory.databaseDirectories disk root = .ok names ∧
      ∀ name, name ∈ names ↔
        disk.standing? (place ++ [name]) = some .directory ∧ Admits root name := by
  obtain ⟨names, listed, members⟩ :=
    list_of_directory (settled.leads.resolve settled.allowed) settled.leads.isDirectory
  refine ⟨names.filter fun name => disk.isDirectory (root.child name), ?_, fun name => ?_⟩
  · unfold DataDirectory.databaseDirectories
    rw [listed]
    rfl
  · rw [List.mem_filter, members, isDirectory_eq_true_iff]
    constructor
    · rintro ⟨present, reached, resolved, isDirectory⟩
      have named := settled.named [name] present name (List.mem_singleton_self name)
      obtain ⟨admitted, isPlace⟩ := (settled.leads.resolve_child_eq_ok_iff named _).1 resolved
      rw [← isPlace]
      exact ⟨isDirectory, admitted⟩
    · rintro ⟨isDirectory, admitted⟩
      have present : disk.standing? (place ++ [name]) ≠ none := by
        rw [isDirectory]
        exact Option.some_ne_none _
      have named := settled.named [name] present name (List.mem_singleton_self name)
      exact ⟨present, _, (settled.leads.resolve_child_eq_ok_iff named _).2 ⟨admitted, rfl⟩,
        isDirectory⟩

theorem Settled.exists?_root (settled : Settled disk root place known) :
    disk.exists? root = true :=
  settled.leads.exists? settled.allowed

/-! ## One collection -/

variable [NumeralReader]

section Files

variable {name : String} {content : Collection}

theorem readDocuments_of_present (leads : disk.Leads directory place)
    (stemmed : isStem name = true) (admitted : Admits directory (documentsFile name))
    (present : disk.standing? (place ++ [documentsFile name]) =
      some (.file (documentsText content).toUTF8)) :
    readDocuments disk (directory.child (documentsFile name)) =
      documentsOfText (documentsText content) := by
  have named := isName_documentsFile (isNamePart_of_isStem stemmed)
  unfold readDocuments
  rw [readText_of_present leads named admitted present]
  rfl

theorem readIndexes_of_present [Json.ReadsBack] (leads : disk.Leads directory place)
    (stemmed : isStem name = true) (admitted : Admits directory (indexesFile name))
    (present : disk.standing? (place ++ [indexesFile name]) =
      some (.file (indexesText content).toUTF8)) (collection : Collection) :
    readIndexes disk (directory.child (indexesFile name)) collection =
      .ok (content.indexes.keys.foldl Collection.buildIndex collection) := by
  have named := isName_indexesFile (isNamePart_of_isStem stemmed)
  have isThere : disk.exists? (directory.child (indexesFile name)) = true := by
    rw [leads.exists?_child_eq_true_iff named, present]
    exact ⟨admitted, Option.some_ne_none _⟩
  unfold readIndexes
  rw [isThere, readText_of_present leads named admitted present]
  simp only [reduceIte, onDisk, Except.mapError, bind, Except.bind, fieldsOfText_indexesText]

theorem readIndexes_of_absent (leads : disk.Leads directory place)
    (stemmed : isStem name = true)
    (absent : Admits directory (indexesFile name) →
      disk.standing? (place ++ [indexesFile name]) = none) (collection : Collection) :
    readIndexes disk (directory.child (indexesFile name)) collection = .ok collection := by
  have named := isName_indexesFile (isNamePart_of_isStem stemmed)
  have notThere : disk.exists? (directory.child (indexesFile name)) = false := by
    rw [Bool.eq_false_iff, ne_eq, leads.exists?_child_eq_true_iff named]
    exact fun both => both.2 (absent both.1)
  unfold readIndexes
  rw [notThere]
  rfl

theorem exists_readDocuments {disk : Disk} {directory : Location}
    (read : readCollection disk directory name = .ok content) :
    ∃ documents, readDocuments disk (directory.child name) = .ok documents := by
  unfold readCollection at read
  rw [bind_eq_ok_iff] at read
  rcases read with ⟨documents, isRead, -⟩
  exact ⟨documents, isRead⟩

/-- The files of a collection are read back as the collection normalised. -/
theorem readCollection_of_holds [Json.ReadsBack] (leads : disk.Leads directory place)
    (plain : isPlain name = true) (readable : Readable content)
    (holds : HoldsCollection disk directory place name content) :
    readCollection disk directory (documentsFile name) = .ok content.normalised := by
  rcases (isPlain_iff name).1 plain with ⟨stemmed, bare, -⟩
  unfold readCollection
  rw [readDocuments_of_present leads stemmed holds.documents.admitted.2 holds.documents.present,
    documentsOfText_documentsText readable, collectionRead_documentsFile bare]
  simp only [bind, Except.bind]
  cases isEmpty : content.indexes.isEmpty with
  | true =>
      have noFields : content.indexes.keys = [] := by
        rw [← SortedMap.isEmpty_keys] at isEmpty
        exact List.isEmpty_iff.1 isEmpty
      rw [readIndexes_of_absent leads stemmed (holds.noIndexes isEmpty)]
      unfold Collection.normalised
      rw [noFields]
      rfl
  | false =>
      have indexes := holds.indexes isEmpty
      rw [readIndexes_of_present leads stemmed indexes.admitted.2 indexes.present]
      rfl

/-- Documents that are in their file are read back normalised, whichever fields the other file of
their collection names. -/
theorem documents_of_readCollection [Json.ReadsBack] (leads : disk.Leads directory place)
    (plain : isPlain name = true) (readable : Readable content)
    (admitted : Admits directory (documentsFile name))
    (present : disk.standing? (place ++ [documentsFile name]) =
      some (.file (documentsText content).toUTF8))
    (indexes : Admits directory (indexesFile name) →
      disk.standing? (place ++ [indexesFile name]) = none ∨
        ∃ other : Collection, disk.standing? (place ++ [indexesFile name]) =
          some (.file (indexesText other).toUTF8)) :
    ∃ read, readCollection disk directory (documentsFile name) = .ok read ∧
      read.documents = content.normalised.documents := by
  rcases (isPlain_iff name).1 plain with ⟨stemmed, bare, -⟩
  unfold readCollection
  rw [readDocuments_of_present leads stemmed admitted present,
    documentsOfText_documentsText readable, collectionRead_documentsFile bare,
    Collection.documents_normalised]
  simp only [bind, Except.bind]
  by_cases isThere : ∃ other : Collection, Admits directory (indexesFile name) ∧
      disk.standing? (place ++ [indexesFile name]) = some (.file (indexesText other).toUTF8)
  · rcases isThere with ⟨other, indexesAdmitted, indexesPresent⟩
    rw [readIndexes_of_present leads stemmed indexesAdmitted indexesPresent]
    exact ⟨_, rfl, (Collection.documents_buildIndexes ..).1⟩
  · rw [readIndexes_of_absent leads stemmed fun indexesAdmitted =>
      (indexes indexesAdmitted).resolve_right fun ⟨other, indexesPresent⟩ =>
        isThere ⟨other, indexesAdmitted, indexesPresent⟩]
    exact ⟨_, rfl, rfl⟩

end Files

/-! ## One database -/

theorem exists_readCollections {files : List String}
    (each : ∀ file ∈ files, ∃ content, readCollection disk directory file = .ok content) :
    ∀ start : Database, ∃ final, readCollections disk directory start files = .ok final := by
  induction files with
  | nil => exact fun start => ⟨start, rfl⟩
  | cons file rest inductionHypothesis =>
      intro start
      rcases each file (List.mem_cons_self ..) with ⟨content, read⟩
      rw [readCollections, read]
      exact inductionHypothesis (fun other member => each other (List.mem_cons_of_mem _ member)) _

/-- Every collection is read from a file that is read under its name, or was there before. -/
theorem find?_readCollections (files : List String) :
    ∀ {start final : Database}, readCollections disk directory start files = .ok final →
      ∀ collection,
        (∃ file ∈ files, collectionRead file = collection ∧ ∃ content,
          readCollection disk directory file = .ok content ∧
            final.find? collection = some content) ∨
        (∀ file ∈ files, collectionRead file ≠ collection) ∧
          final.find? collection = start.find? collection := by
  induction files with
  | nil =>
      intro start final read collection
      rw [readCollections, Except.ok.injEq] at read
      exact .inr ⟨fun file member => absurd member List.not_mem_nil, by rw [read]⟩
  | cons file rest inductionHypothesis =>
      intro start final read collection
      rw [readCollections, bind_eq_ok_iff] at read
      rcases read with ⟨content, firstRead, restRead⟩
      rcases inductionHypothesis restRead collection with ⟨other, member, found⟩ | ⟨absent, found⟩
      · exact .inl ⟨other, List.mem_cons_of_mem _ member, found⟩
      · rw [SortedMap.find?_insert] at found
        by_cases isFile : collection = collectionRead file
        · rw [if_pos isFile] at found
          exact .inl ⟨file, List.mem_cons_self .., isFile.symm, content, firstRead, found⟩
        · rw [if_neg isFile] at found
          refine .inr ⟨fun other member => ?_, found⟩
          rcases List.mem_cons.1 member with isFirst | inRest
          · rw [isFirst]
            exact fun same => isFile same.symm
          · exact absent other inRest

/-- A directory is read when each of its files of documents is. -/
theorem exists_readDatabase (leads : disk.Leads directory place)
    (allowed : checkLocation directory = .ok ())
    (each : ∀ file, IsRead disk place file →
      ∃ content, readCollection disk directory file = .ok content) :
    ∃ database, readDatabase disk directory = .ok database := by
  rcases exists_documentsFiles leads allowed with ⟨files, areFiles, members⟩
  unfold readDatabase
  rw [areFiles]
  exact exists_readCollections (fun file member => each file ((members file).1 member)) _

/-- The collections that are read from a directory are those of its files of documents. -/
theorem find?_readDatabase {database : Database} (leads : disk.Leads directory place)
    (allowed : checkLocation directory = .ok ())
    (read : readDatabase disk directory = .ok database) (collection : String) :
    (∃ file, IsRead disk place file ∧ collectionRead file = collection ∧ ∃ content,
      readCollection disk directory file = .ok content ∧
        database.find? collection = some content) ∨
    (∀ file, IsRead disk place file → collectionRead file ≠ collection) ∧
      database.find? collection = none := by
  rcases exists_documentsFiles leads allowed with ⟨files, areFiles, members⟩
  unfold readDatabase at read
  rw [areFiles] at read
  rcases find?_readCollections files read collection with ⟨file, member, found⟩ | ⟨absent, found⟩
  · exact .inl ⟨file, (members file).1 member, found⟩
  · exact .inr ⟨fun file isRead => absent file ((members file).2 isRead), found⟩

/-- The directory of a database is read back as the database with every collection normalised. -/
theorem readDatabase_of_holds [Json.ReadsBack] {name : String} {database : Database}
    (leads : disk.Leads root place) (named : isName name = true) (plain : PlainlyNamed database)
    (readable : ∀ entry ∈ database.toList, Readable entry.2)
    (holds : HoldsDatabase disk root place name database) :
    readDatabase disk (root.child name) = .ok (database.mapValues Collection.normalised) := by
  have childLeads := leads.child named holds.admitted.2 holds.present
  have reads : ∀ collection content, database.find? collection = some content →
      readCollection disk (root.child name) (documentsFile collection) =
        .ok content.normalised := by
    intro collection content found
    have member := (database.mem_toList_iff collection content).2 found
    exact readCollection_of_holds childLeads (plain _ member) (readable _ member)
      (holds.collections _ member)
  rcases exists_readDatabase childLeads holds.admitted.1 (by
    intro file isRead
    rcases holds.documentsFile_of_isRead isRead with ⟨collection, content, found, isFile⟩
    rw [isFile]
    exact ⟨_, reads collection content found⟩) with ⟨read, isRead⟩
  have same : read = database.mapValues Collection.normalised := by
    apply SortedMap.ext
    intro collection
    rw [SortedMap.find?_mapValues]
    rcases find?_readDatabase childLeads holds.admitted.1 isRead collection with
      ⟨file, fileRead, isCollection, content, contentRead, found⟩ | ⟨absent, notFound⟩
    · have isFile := holds.eq_documentsFile plain fileRead isCollection
      rcases holds.documentsFile_of_isRead fileRead with ⟨owner, owned, ofOwner, isOwner⟩
      rw [isFile, documentsFile_inj] at isOwner
      rw [isFile, isOwner, reads owner owned ofOwner, Except.ok.injEq] at contentRead
      rw [found, isOwner, ofOwner, ← contentRead]
      rfl
    · rw [notFound]
      cases inDatabase : database.find? collection with
      | none => rfl
      | some content =>
          have member := (database.mem_toList_iff ..).2 inDatabase
          have bare := ((isPlain_iff _).1 (plain _ member)).2.1
          have present := (holds.collections _ member).documents.present
          refine absurd (collectionRead_documentsFile bare) (absent (documentsFile collection) ?_)
          exact ⟨present ▸ Option.some_ne_none _, isDocumentsFile_documentsFile (plain _ member)⟩
  rw [isRead, same]

/-! ## All databases -/

theorem exists_readDatabases {names : List String}
    (each : ∀ name ∈ names, ∃ database, readDatabase disk (root.child name) = .ok database) :
    ∀ start, ∃ final, readDatabases disk root start names = .ok final := by
  induction names with
  | nil => exact fun start => ⟨start, rfl⟩
  | cons name rest inductionHypothesis =>
      intro start
      rcases each name (List.mem_cons_self ..) with ⟨database, read⟩
      rw [readDatabases, read]
      exact inductionHypothesis (fun other member => each other (List.mem_cons_of_mem _ member)) _

/-- Every database that was listed is in place as it was read. -/
theorem find?_readDatabases (names : List String) :
    ∀ {start final : SortedMap String Database},
      readDatabases disk root start names = .ok final →
      ∀ name, (name ∈ names → ∃ database, readDatabase disk (root.child name) = .ok database ∧
          final.find? name = some database) ∧
        (name ∉ names → final.find? name = start.find? name) := by
  induction names with
  | nil =>
      intro start final read name
      rw [readDatabases, Except.ok.injEq] at read
      exact ⟨fun member => absurd member List.not_mem_nil, fun _ => by rw [read]⟩
  | cons first rest inductionHypothesis =>
      intro start final read name
      rw [readDatabases, bind_eq_ok_iff] at read
      obtain ⟨database, firstRead, restRead⟩ := read
      obtain ⟨listed, unlisted⟩ := inductionHypothesis restRead name
      by_cases inRest : name ∈ rest
      · exact ⟨fun _ => listed inRest, fun absent => absurd (List.mem_cons_of_mem _ inRest) absent⟩
      · rw [unlisted inRest, SortedMap.find?_insert]
        constructor
        · intro member
          have isFirst := (List.mem_cons.1 member).resolve_right inRest
          rw [if_pos isFirst, isFirst]
          exact ⟨database, firstRead, rfl⟩
        · intro absent
          have notFirst : name ≠ first := fun isFirst =>
            absent (List.mem_cons.2 (.inl isFirst))
          rw [if_neg notFirst]

/-- A settled root is loaded when each of its directories is read. -/
theorem Settled.exists_load (settled : Settled disk root place known)
    (each : ∀ name, disk.standing? (place ++ [name]) = some .directory → Admits root name →
      ∃ database, readDatabase disk (root.child name) = .ok database) :
    ∃ store, load disk root = .ok store := by
  rcases settled.databaseDirectories with ⟨names, listed, members⟩
  rcases exists_readDatabases (fun name member => each name ((members name).1 member).1
    ((members name).1 member).2) SortedMap.empty with ⟨databases, read⟩
  refine ⟨⟨databases⟩, ?_⟩
  unfold load
  rw [settled.exists?_root, if_pos rfl, listed]
  simp only [bind, Except.bind, read]

/-- The databases of a store that was loaded are those of the directories below the root. -/
theorem Settled.find?_load {again : Store} (settled : Settled disk root place known)
    (loaded : load disk root = .ok again) (name : String) :
    ((disk.standing? (place ++ [name]) = some .directory ∧ Admits root name) ∧
      ∃ database, readDatabase disk (root.child name) = .ok database ∧
        again.databases.find? name = some database) ∨
    ¬(disk.standing? (place ++ [name]) = some .directory ∧ Admits root name) ∧
      again.databases.find? name = none := by
  rcases settled.databaseDirectories with ⟨names, listed, members⟩
  unfold load at loaded
  rw [settled.exists?_root, if_pos rfl, listed] at loaded
  rcases bind_eq_ok_iff.1 loaded with ⟨_, isNames, loaded⟩
  rcases bind_eq_ok_iff.1 loaded with ⟨databases, read, isAgain⟩
  cases isNames
  cases isAgain
  have look := find?_readDatabases names read name
  rw [← members]
  by_cases member : name ∈ names
  · exact .inl ⟨member, look.1 member⟩
  · exact .inr ⟨member, look.2 member⟩

/-- A disk that holds a store is loaded as the store with every document normalised. -/
theorem load_of_holds [Json.ReadsBack] {store : Store}
    (settled : Settled disk root place (Knows store)) (named : HasNames store)
    (plain : ∀ entry ∈ store.databases.toList, PlainlyNamed entry.2)
    (readable : ∀ entry ∈ store.databases.toList, ∀ inner ∈ entry.2.toList, Readable inner.2)
    (holds : HoldsStore disk root place store) : load disk root = .ok store.normalised := by
  have reads : ∀ name database, store.databases.find? name = some database →
      disk.standing? (place ++ [name]) = some .directory ∧ Admits root name ∧
        readDatabase disk (root.child name) =
          .ok (database.mapValues Collection.normalised) := by
    intro name database found
    have member := (store.databases.mem_toList_iff ..).2 found
    have inPlace := holds _ member
    exact ⟨inPlace.present, inPlace.admitted, readDatabase_of_holds settled.leads
      (named _ member) (plain _ member) (readable _ member) inPlace⟩
  rcases settled.exists_load (by
    intro name isDirectory admitted
    have present := settled.directories name isDirectory admitted
    rcases Option.isSome_iff_exists.1 present with ⟨database, found⟩
    exact ⟨_, (reads name database found).2.2⟩) with ⟨again, loaded⟩
  have same : again.databases = store.normalised.databases := by
    apply SortedMap.ext
    intro name
    show _ = (store.databases.mapValues _).find? name
    rw [SortedMap.find?_mapValues]
    rcases settled.find?_load loaded name with
      ⟨⟨isDirectory, admitted⟩, database, isRead, inAgain⟩ | ⟨noDirectory, notInAgain⟩
    · rcases Option.isSome_iff_exists.1 (settled.directories name isDirectory admitted) with
        ⟨stored, found⟩
      have storedRead := (reads name stored found).2.2
      rw [isRead, Except.ok.injEq] at storedRead
      rw [inAgain, found, storedRead]
      rfl
    · cases found : store.databases.find? name with
      | none => exact notInAgain
      | some stored =>
          have isThere := reads name stored found
          exact absurd ⟨isThere.1, isThere.2.1⟩ noDirectory
  rw [loaded]
  exact congrArg (fun databases => Except.ok (Store.mk databases)) same

/-! ## What was loaded -/

/-- A store that was loaded has a database for every directory below the root. -/
theorem Settled.of_load {again : Store} (settled : Settled disk root place known)
    (loaded : load disk root = .ok again) : Settled disk root place (Knows again) where
  allowed := settled.allowed
  leads := settled.leads
  named := settled.named
  directories name isDirectory admitted := by
    unfold Knows SortedMap.contains
    rcases settled.find?_load loaded name with ⟨-, database, -, found⟩ | ⟨noDirectory, -⟩
    · rw [found]
      rfl
    · exact absurd ⟨isDirectory, admitted⟩ noDirectory

end DocStore.DataDirectory
