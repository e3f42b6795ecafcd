import DocStore.Proofs.DataDirectory.Filing

/-!
Contract: what saving a store leaves on a disk.

Below a root, saving adds a directory for every database that has none and no
other directory, and leaves no file that is kept for a collection which is not
there. The documents of a collection with a plain name end up in its file,
whatever the others are called. Where all names are plain, every collection ends
up in both of its own files, and saving once more what a disk holds changes
nothing.

Owns: `DataDirectory.Settled`, `DataDirectory.HoldsStore` and the laws of `save`.
-/

namespace DocStore.DataDirectory

open Disk Work

variable {root : Location} {place : Place} {before after : Session}

/-! ## Directories below a root -/

/-- A root that leads to a directory where all entries have names, at any depth, and where the
directories directly below belong to known databases, if they can be asked for. -/
structure Settled (disk : Disk) (root : Location) (place : Place) (known : String → Prop) :
    Prop where
  allowed : checkLocation root = .ok ()
  leads : disk.Leads root place
  named : ∀ rest, disk.standing? (place ++ rest) ≠ none → ∀ name ∈ rest, isName name = true
  directories : ∀ name, disk.standing? (place ++ [name]) = some .directory →
    Admits root name → known name

variable {known : String → Prop}

theorem Settled.imp {disk : Disk} {other : String → Prop} (settled : Settled disk root place known)
    (more : ∀ name, known name → other name) : Settled disk root place other where
  allowed := settled.allowed
  leads := settled.leads
  named := settled.named
  directories name isDirectory admitted := more name (settled.directories name isDirectory admitted)

/-- A directory directly below a settled root is led to by its name. -/
theorem Settled.leads_child {disk : Disk} {name : String} (settled : Settled disk root place known)
    (isDirectory : disk.standing? (place ++ [name]) = some .directory)
    (admitted : Admits root name) : disk.Leads (root.child name) (place ++ [name]) := by
  have present : disk.standing? (place ++ [name]) ≠ none := by
    rw [isDirectory]
    exact Option.some_ne_none _
  exact settled.leads.child
    (settled.named [name] present name (List.mem_singleton_self name)) admitted.2 isDirectory

/-- Names below a place stay names when something with a name is put into a directory. -/
theorem named_of_new {old new : Disk}
    (named : ∀ rest, old.standing? (place ++ rest) ≠ none → ∀ name ∈ rest, isName name = true)
    (grown : ∀ other, new.standing? other ≠ none → old.standing? other ≠ none ∨
      ∃ parent name, other = parent ++ [name] ∧ isName name = true ∧
        old.standing? parent = some .directory) :
    ∀ rest, new.standing? (place ++ rest) ≠ none → ∀ name ∈ rest, isName name = true := by
  intro rest present name member
  rcases grown _ present with inOld | ⟨parent, last, shape, lastNamed, within⟩
  · exact named rest inOld name member
  · rcases List.eq_nil_or_concat rest with isEmpty | ⟨front, final, isRest⟩
    · rw [isEmpty] at member
      exact absurd member List.not_mem_nil
    · rw [List.concat_eq_append] at isRest
      rw [isRest, ← List.append_assoc] at shape
      obtain ⟨isParent, isLast⟩ := List.append_inj' shape rfl
      rw [isRest] at member
      rcases List.mem_append.1 member with inFront | isFinal
      · refine named front ?_ name inFront
        rw [isParent, within]
        exact Option.some_ne_none _
      · rw [List.mem_singleton.1 isFinal, List.singleton_inj.1 isLast]
        exact lastNamed

theorem Settled.of_sameDirectories {old new : Disk} (settled : Settled old root place known)
    (kept : SameDirectories old new) : Settled new root place known where
  allowed := settled.allowed
  leads := settled.leads.mono fun inner => (kept.directories inner).2
  named := named_of_new settled.named kept.named
  directories name isDirectory := settled.directories name ((kept.directories _).1 isDirectory)

/-- Adding the directory of a known database keeps a root settled. -/
theorem Settled.of_created {old new : Disk} {name : String}
    (settled : Settled old root place known) (named : isName name = true) (isKnown : known name)
    (created : ∀ other, new.standing? other =
      if other = place ++ [name] then some .directory else old.standing? other) :
    Settled new root place known where
  allowed := settled.allowed
  leads := by
    apply settled.leads.mono
    intro inner isDirectory
    rw [created]
    split
    · rfl
    · exact isDirectory
  named := by
    refine named_of_new settled.named fun other present => ?_
    by_cases isNew : other = place ++ [name]
    · exact .inr ⟨place, name, isNew, named, settled.leads.isDirectory⟩
    · rw [created, if_neg isNew] at present
      exact .inl present
  directories other isDirectory := by
    by_cases same : other = name
    · exact fun _ => same ▸ isKnown
    · rw [created, if_neg (place_ne same)] at isDirectory
      exact settled.directories other isDirectory

/-! ## Saving one database -/

theorem saveDatabase_cases {name : String} {database : Database}
    (ends : (saveDatabase root name database).Ends before () after) :
    ∃ created filled, (createDirectories (root.child name)).Ends before () created ∧
      (database.toList.forM fun entry => saveCollection (root.child name) entry.1 entry.2).Ends
        created () filled ∧
      (sweep (root.child name) database).Ends filled () after := by
  unfold saveDatabase at ends
  obtain ⟨_, created, isCreated, ends⟩ := (ends_bind_iff ..).1 ends
  obtain ⟨_, filled, isFilled, isSwept⟩ := (ends_bind_iff ..).1 ends
  exact ⟨created, filled, isCreated, isFilled, isSwept⟩

theorem sameDirectories_saveCollections {directory : Location} {database : Database}
    (ends : (database.toList.forM fun entry => saveCollection directory entry.1 entry.2).Ends
      before () after) : SameDirectories before.disk after.disk := by
  refine sameDirectories_forM
    (fun entry : String × Collection => saveCollection directory entry.1 entry.2)
    database.toList ?_ ends
  intro entry start stop step
  have kept := sameDirectories_saveCollection step
  exact kept

theorem Settled.of_saveDatabase {name : String} {database : Database}
    (settled : Settled before.disk root place known) (named : isName name = true)
    (isKnown : known name) (ends : (saveDatabase root name database).Ends before () after) :
    Settled after.disk root place known := by
  obtain ⟨created, filled, isCreated, isFilled, isSwept⟩ := saveDatabase_cases ends
  obtain ⟨-, effect⟩ := createDirectories_child_effect settled.leads named isCreated
  have createdSettled := settled.of_created named isKnown effect
  have filledSettled :=
    createdSettled.of_sameDirectories (sameDirectories_saveCollections isFilled)
  exact filledSettled.of_sameDirectories (sameDirectories_sweep isSwept)

/-- The directory of a database, where no file is kept for a collection it does not have. -/
structure Cleared (disk : Disk) (root : Location) (place : Place) (name : String)
    (database : Database) : Prop where
  admitted : Admits root name
  present : disk.standing? (place ++ [name]) = some .directory
  swept : ∀ file, disk.standing? (place ++ [name] ++ [file]) ≠ none →
    isStale database file = false

/-- A database in its own directory, where no file is kept for a collection it does not have. -/
structure HoldsDatabase (disk : Disk) (root : Location) (place : Place) (name : String)
    (database : Database) : Prop extends Cleared disk root place name database where
  collections : ∀ entry ∈ database.toList,
    HoldsCollection disk (root.child name) (place ++ [name]) entry.1 entry.2

/-- Whether the names of a database's collections have nothing in them that no name has. -/
def HasNameParts (database : Database) : Prop :=
  ∀ entry ∈ database.toList, isNamePart entry.1 = true

/-- Whether all collections of a database have names that can stand before an ending. -/
def Stemmed (database : Database) : Prop :=
  ∀ entry ∈ database.toList, isStem entry.1 = true

/-- Whether all collections of a database have plain names. -/
def PlainlyNamed (database : Database) : Prop :=
  ∀ entry ∈ database.toList, isPlain entry.1 = true

/-- Whether all names of a database's collections can be stored. -/
def IsStorable (database : Database) : Prop :=
  ∀ entry ∈ database.toList, isCollectionName entry.1 = true

theorem IsStorable.plainlyNamed {database : Database} (storable : IsStorable database) :
    PlainlyNamed database :=
  fun entry member => isPlain_of_isCollectionName (storable entry member)

theorem Stemmed.hasNameParts {database : Database} (stemmed : Stemmed database) :
    HasNameParts database :=
  fun entry member => isNamePart_of_isStem (stemmed entry member)

theorem PlainlyNamed.hasNameParts {database : Database} (plain : PlainlyNamed database) :
    HasNameParts database :=
  fun entry member => isNamePart_of_isStem ((isPlain_iff entry.1).1 (plain entry member)).1

theorem Cleared.of_same {disk other : Disk} {name : String} {database : Database}
    (cleared : Cleared disk root place name database)
    (same : ∀ rest, other.standing? (place ++ [name] ++ rest) =
      disk.standing? (place ++ [name] ++ rest)) : Cleared other root place name database where
  admitted := cleared.admitted
  present := by
    have sameHere := same []
    rw [List.append_nil] at sameHere
    rw [sameHere]
    exact cleared.present
  swept file present := by
    rw [same] at present
    exact cleared.swept file present

theorem HoldsDatabase.of_same {disk other : Disk} {name : String} {database : Database}
    (holds : HoldsDatabase disk root place name database)
    (same : ∀ rest, other.standing? (place ++ [name] ++ rest) =
      disk.standing? (place ++ [name] ++ rest)) :
    HoldsDatabase other root place name database where
  toCleared := holds.toCleared.of_same same
  collections entry member :=
    (holds.collections entry member).of_same fun file _ => same [file]

theorem eq_of_mem_toList {Content : Type} {map : SortedMap String Content}
    {left right : String × Content} (leftMember : left ∈ map.toList)
    (rightMember : right ∈ map.toList) (same : left.1 = right.1) : left = right := by
  obtain ⟨key, content⟩ := left
  obtain ⟨other, otherContent⟩ := right
  have isKey : key = other := same
  subst isKey
  rw [map.mem_toList_iff] at leftMember rightMember
  rw [leftMember] at rightMember
  rw [Option.some.inj rightMember]

/-- A stale file belongs to no collection of the database. -/
theorem collectionOf?_of_isStale {database : Database} {file : String}
    (stale : isStale database file = true) :
    ∃ collection, collectionOf? file = some collection ∧ database.contains collection = false := by
  unfold isStale at stale
  split at stale
  · cases stale
  next collection isKept =>
    refine ⟨collection, ?_, by simpa using stale⟩
    rcases collectionKept?_cases isKept with isFile | isFile
    · rw [isFile, collectionOf?_documentsFile, ← isFile]
      exact isKept
    · rw [isFile, collectionOf?_indexesFile, ← isFile]
      exact isKept

/-- A stale file is none of the files of a collection with a plain name that is there. -/
theorem place_ne_of_isStale {database : Database} {entry : String × Collection} {file : String}
    (plain : isPlain entry.1 = true) (member : entry ∈ database.toList)
    (own : file ∈ ownFiles entry.1) :
    ∀ other, isStale database other = true → place ++ [file] ≠ place ++ [other] := by
  intro other stale same
  obtain ⟨collection, ofCollection, missing⟩ := collectionOf?_of_isStale stale
  rw [← List.singleton_inj.1 (List.append_cancel_left same),
    collectionOf?_of_mem_ownFiles plain own] at ofCollection
  have present := (database.mem_toList_iff entry.1 entry.2).1 member
  unfold SortedMap.contains at missing
  rw [← Option.some.inj ofCollection, present] at missing
  cases missing

/-- Saving the collections of a database changes nothing but entries of the directory. -/
theorem saveCollections_spares {directory : Location} {database : Database}
    (leads : before.disk.Leads directory place) (parts : HasNameParts database)
    (ends : (database.toList.forM fun entry => saveCollection directory entry.1 entry.2).Ends
      before () after) {other : Place} (outside : ∀ file, other ≠ place ++ [file]) :
    after.disk.standing? other = before.disk.standing? other := by
  let spared (session : Session) : Prop := session.disk.Leads directory place ∧
    session.disk.standing? other = before.disk.standing? other
  have result : spared after := by
    apply forM_keeps spared database.toList _ ⟨leads, rfl⟩ ends
    intro entry member start stop ⟨startLeads, startSpared⟩ step
    have kept := sameDirectories_saveCollection step
    refine ⟨startLeads.mono fun inner => (kept.directories inner).2, ?_⟩
    rw [saveCollection_spares startLeads (parts entry member) step fun file _ => outside file]
    exact startSpared
  exact result.2

/-- Saving the collections of a database puts each into its own files, which no other collection
touches. -/
theorem saveCollections_effect {directory : Location} {database : Database}
    (leads : before.disk.Leads directory place) (plain : PlainlyNamed database)
    (ends : (database.toList.forM fun entry => saveCollection directory entry.1 entry.2).Ends
      before () after) :
    ∀ entry ∈ database.toList, HoldsCollection after.disk directory place entry.1 entry.2 := by
  refine (forM_establishes (fun session => session.disk.Leads directory place)
    (fun entry session => HoldsCollection session.disk directory place entry.1 entry.2)
    (fun entry : String × Collection => saveCollection directory entry.1 entry.2)
    database.toList ?_ ?_ leads ends).2
  · intro entry member start stop startLeads step
    have kept := sameDirectories_saveCollection step
    exact ⟨startLeads.mono fun inner => (kept.directories inner).2,
      holdsCollection_of_ends startLeads (plain entry member) step⟩
  · intro entry member other otherMember different start stop startLeads step holds
    apply holds.of_same
    intro file ofOther
    apply saveCollection_spares startLeads (plain.hasNameParts entry member) step
    intro entryFile ofEntry same
    replace ofOther := collectionOf?_of_mem_ownFiles (plain other otherMember) ofOther
    replace ofEntry := collectionOf?_of_mem_ownFiles (plain entry member) ofEntry
    rw [List.singleton_inj.1 (List.append_cancel_left same), ofEntry] at ofOther
    exact different (eq_of_mem_toList member otherMember (Option.some.inj ofOther))

/-- Saving the collections of a database puts the documents of those with plain names into their
files, whatever the others are called. -/
theorem saveCollections_documents {directory : Location} {database : Database}
    (leads : before.disk.Leads directory place) (parts : HasNameParts database)
    (ends : (database.toList.forM fun entry => saveCollection directory entry.1 entry.2).Ends
      before () after) :
    ∀ entry ∈ database.toList, isPlain entry.1 = true →
      HoldsFile after.disk directory place (documentsFile entry.1) (documentsText entry.2) := by
  refine (forM_establishes (fun session => session.disk.Leads directory place)
    (fun entry session => isPlain entry.1 = true →
      HoldsFile session.disk directory place (documentsFile entry.1) (documentsText entry.2))
    (fun entry : String × Collection => saveCollection directory entry.1 entry.2)
    database.toList ?_ ?_ leads ends).2
  · intro entry member start stop startLeads step
    have kept := sameDirectories_saveCollection step
    exact ⟨startLeads.mono fun inner => (kept.directories inner).2,
      fun plain => (holdsCollection_of_ends startLeads plain step).documents⟩
  · intro entry member other otherMember different start stop startLeads step holds plain
    have otherName : other.1 ≠ entry.1 :=
      fun same => different (eq_of_mem_toList member otherMember same.symm)
    rcases documentsFile_notMem_ownFiles plain otherName with ⟨notFile, notDraft⟩
    have spares : ∀ file, file ∉ ownFiles entry.1 →
        stop.disk.standing? (place ++ [file]) = start.disk.standing? (place ++ [file]) := by
      intro file notOwn
      apply saveCollection_spares startLeads (parts entry member) step
      intro own isOwn same
      rw [List.singleton_inj.1 (List.append_cancel_left same)] at notOwn
      exact notOwn isOwn
    exact (holds plain).of_same (spares _ notDraft) (spares _ notFile)

/-- The sweep at the end of saving a database begins at a settled root, where the collections have
been written into the directory of the database and nothing else has been touched. -/
theorem saveDatabase_stages {name : String} {database : Database}
    (settled : Settled before.disk root place known) (named : isName name = true)
    (isKnown : known name) (parts : HasNameParts database)
    (ends : (saveDatabase root name database).Ends before () after) :
    ∃ created filled, Admits root name ∧
      created.disk.Leads (root.child name) (place ++ [name]) ∧
      (database.toList.forM fun entry => saveCollection (root.child name) entry.1 entry.2).Ends
        created () filled ∧
      filled.disk.Leads (root.child name) (place ++ [name]) ∧
      (∀ other, (∀ rest, other ≠ place ++ [name] ++ rest) →
        filled.disk.standing? other = before.disk.standing? other) ∧
      (∀ file, isStale database file = true →
        after.disk.standing? (place ++ [name] ++ [file]) = none) ∧
      ∀ other, (∀ file, isStale database file = true → other ≠ place ++ [name] ++ [file]) →
        after.disk.standing? other = filled.disk.standing? other := by
  obtain ⟨created, filled, isCreated, isFilled, isSwept⟩ := saveDatabase_cases ends
  obtain ⟨admitted, createdEffect⟩ := createDirectories_child_effect settled.leads named isCreated
  have createdSettled := settled.of_created named isKnown createdEffect
  have createdLeads : created.disk.Leads (root.child name) (place ++ [name]) :=
    createdSettled.leads.child named admitted.2 (by rw [createdEffect, if_pos rfl])
  have filledKept := sameDirectories_saveCollections isFilled
  have filledSettled := createdSettled.of_sameDirectories filledKept
  have filledLeads := createdLeads.mono fun inner => (filledKept.directories inner).2
  have swept := sweep_effect filledLeads (by
    intro file present
    rw [List.append_assoc] at present
    exact filledSettled.named _ present file (by simp)) isSwept
  refine ⟨created, filled, admitted, createdLeads, isFilled, filledLeads, ?_, swept⟩
  intro other outside
  have notHere : other ≠ place ++ [name] := by
    intro isDirectory
    apply outside []
    rw [List.append_nil]
    exact isDirectory
  rw [saveCollections_spares createdLeads parts isFilled fun file => outside [file],
    createdEffect, if_neg notHere]

/-- Saving a database leaves no stale file in its directory and touches nothing outside of it. -/
theorem saveDatabase_clears {name : String} {database : Database}
    (settled : Settled before.disk root place known) (named : isName name = true)
    (isKnown : known name) (parts : HasNameParts database)
    (ends : (saveDatabase root name database).Ends before () after) :
    Cleared after.disk root place name database ∧
      ∀ other, (∀ rest, other ≠ place ++ [name] ++ rest) →
        after.disk.standing? other = before.disk.standing? other := by
  obtain ⟨created, filled, admitted, -, -, filledLeads, filledSpared, gone, sweptSpared⟩ :=
    saveDatabase_stages settled named isKnown parts ends
  refine ⟨⟨admitted, ?_, ?_⟩, ?_⟩
  · rw [sweptSpared _ fun file _ same => by simp at same]
    exact filledLeads.isDirectory
  · intro file present
    cases stale : isStale database file with
    | false => rfl
    | true => exact absurd (gone file stale) present
  · intro other outside
    rw [sweptSpared other fun file _ => outside [file], filledSpared other outside]

/-- Saving a database puts the documents of its collections with plain names into their files. -/
theorem saveDatabase_documents {name : String} {database : Database}
    (settled : Settled before.disk root place known) (named : isName name = true)
    (isKnown : known name) (parts : HasNameParts database)
    (ends : (saveDatabase root name database).Ends before () after) :
    ∀ entry ∈ database.toList, isPlain entry.1 = true →
      HoldsFile after.disk (root.child name) (place ++ [name]) (documentsFile entry.1)
        (documentsText entry.2) := by
  obtain ⟨created, filled, -, createdLeads, isFilled, -, -, -, sweptSpared⟩ :=
    saveDatabase_stages settled named isKnown parts ends
  intro entry member plain
  have spared : ∀ file ∈ ownFiles entry.1, after.disk.standing? (place ++ [name] ++ [file]) =
      filled.disk.standing? (place ++ [name] ++ [file]) := fun file own =>
    sweptSpared _ (place_ne_of_isStale plain member own)
  exact (saveCollections_documents createdLeads parts isFilled entry member plain).of_same
    (spared _ (by simp [ownFiles])) (spared _ (by simp [ownFiles]))

/-- Saving a database whose names are plain puts it into its directory. -/
theorem saveDatabase_effect {name : String} {database : Database}
    (settled : Settled before.disk root place known) (named : isName name = true)
    (isKnown : known name) (plain : PlainlyNamed database)
    (ends : (saveDatabase root name database).Ends before () after) :
    HoldsDatabase after.disk root place name database := by
  obtain ⟨created, filled, -, createdLeads, isFilled, -, -, -, sweptSpared⟩ :=
    saveDatabase_stages settled named isKnown plain.hasNameParts ends
  refine ⟨(saveDatabase_clears settled named isKnown plain.hasNameParts ends).1, ?_⟩
  intro entry member
  apply (saveCollections_effect createdLeads plain isFilled entry member).of_same
  exact fun file own => sweptSpared _ (place_ne_of_isStale (plain entry member) member own)

/-- Saving a database once more changes nothing. -/
theorem ends_saveDatabase_again {name : String} {database : Database}
    (leads : before.disk.Leads root place) (named : isName name = true)
    (plain : PlainlyNamed database)
    (holds : HoldsDatabase before.disk root place name database) :
    ∃ after, (saveDatabase root name database).Ends before () after ∧
      after.disk.standing? = before.disk.standing? := by
  have isCreated := ends_createDirectories_child leads named holds.admitted holds.present
  have childLeads := leads.child named holds.admitted.2 holds.present
  obtain ⟨filled, isFilled, same⟩ := forM_ends
    (fun session => session.disk.standing? = before.disk.standing?)
    (fun entry : String × Collection => saveCollection (root.child name) entry.1 entry.2)
    database.toList (by
      intro entry member start same
      have startLeads : start.disk.Leads (root.child name) (place ++ [name]) :=
        childLeads.mono fun inner isDirectory => by rw [same]; exact isDirectory
      have startHolds := (holds.collections entry member).of_same fun file _ => congrFun same _
      obtain ⟨stop, ends, unchanged⟩ :=
        ends_saveCollection_again startLeads (plain entry member) startHolds
      exact ⟨stop, ends, unchanged.trans same⟩) rfl
  have filledLeads : filled.disk.Leads (root.child name) (place ++ [name]) :=
    childLeads.mono fun inner isDirectory => by rw [same]; exact isDirectory
  obtain ⟨names, listed, members⟩ := list_of_directory (filledLeads.resolve holds.admitted.1)
    filledLeads.isDirectory
  obtain ⟨after, isSwept, unchanged⟩ := forM_ends (fun session => session = filled)
    (sweepFile (root.child name) database) names (by
      intro file member start isFilled
      rw [isFilled]
      have present := (members file).1 member
      rw [same] at present
      exact ⟨filled, ends_sweepFile_of_not_stale (holds.swept file present) filled, rfl⟩) rfl
  refine ⟨after, ?_, by rw [unchanged]; exact same⟩
  refine (ends_bind_iff ..).2 ⟨(), before, isCreated, ?_⟩
  refine (ends_bind_iff ..).2 ⟨(), filled, isFilled, ?_⟩
  exact (ends_bind_iff ..).2 ⟨names, filled, (ends_observe_iff ..).2 ⟨listed, rfl⟩, isSwept⟩

/-! ## Saving a store -/

theorem save_cases {store : Store} (ends : (save store root).Ends before () after) :
    ∃ created, (createDirectories root).Ends before () created ∧
      (store.databases.toList.forM fun entry => saveDatabase root entry.1 entry.2).Ends
        created () after := by
  unfold save at ends
  obtain ⟨_, created, isCreated, ends⟩ := (ends_bind_iff ..).1 ends
  exact ⟨created, isCreated, ends⟩

/-- Whether all names of a store's databases can be stored. -/
def HasNames (store : Store) : Prop :=
  ∀ entry ∈ store.databases.toList, isName entry.1 = true

/-- Whether all collections of a store have plain names. -/
def HasPlainNames (store : Store) : Prop :=
  ∀ entry ∈ store.databases.toList, PlainlyNamed entry.2

/-- Whether a database of a store has a name. -/
def Knows (store : Store) (name : String) : Prop := store.databases.contains name = true

theorem knows_of_mem {store : Store} {entry : String × Database}
    (member : entry ∈ store.databases.toList) : Knows store entry.1 := by
  have found := (store.databases.mem_toList_iff entry.1 entry.2).1 member
  unfold Knows SortedMap.contains
  rw [found]
  rfl

theorem createDirectories_of_settled (settled : Settled before.disk root place known)
    {created : Session} (isCreated : (createDirectories root).Ends before () created) :
    created = before := by
  have unchanged := ends_createDirectories_self settled.leads settled.allowed
  exact (Prod.mk.inj (isCreated.symm.trans unchanged)).2

/-- Saving keeps a root settled, whatever the collections are called. -/
theorem Settled.of_save {store : Store} (settled : Settled before.disk root place (Knows store))
    (named : HasNames store) (ends : (save store root).Ends before () after) :
    Settled after.disk root place (Knows store) := by
  obtain ⟨created, isCreated, ends⟩ := save_cases ends
  rw [createDirectories_of_settled settled isCreated] at ends
  refine forM_keeps (fun session => Settled session.disk root place (Knows store))
    store.databases.toList ?_ settled ends
  intro entry member start stop startSettled step
  exact startSettled.of_saveDatabase (named entry member) (knows_of_mem member) step

/-- A store in its own directories and files. -/
def HoldsStore (disk : Disk) (root : Location) (place : Place) (store : Store) : Prop :=
  ∀ entry ∈ store.databases.toList, HoldsDatabase disk root place entry.1 entry.2

/-- What saving each database brings about in its own directory holds when the store is saved. -/
theorem save_establishes {store : Store} (fact : String × Database → Disk → Prop)
    (settled : Settled before.disk root place (Knows store)) (named : HasNames store)
    (parts : ∀ entry ∈ store.databases.toList, HasNameParts entry.2)
    (brings : ∀ entry ∈ store.databases.toList, ∀ start stop,
      Settled start.disk root place (Knows store) →
        (saveDatabase root entry.1 entry.2).Ends start () stop → fact entry stop.disk)
    (inside : ∀ entry (disk other : Disk), fact entry disk →
      (∀ rest, other.standing? (place ++ [entry.1] ++ rest) =
        disk.standing? (place ++ [entry.1] ++ rest)) → fact entry other)
    (ends : (save store root).Ends before () after) :
    ∀ entry ∈ store.databases.toList, fact entry after.disk := by
  obtain ⟨created, isCreated, ends⟩ := save_cases ends
  rw [createDirectories_of_settled settled isCreated] at ends
  refine (forM_establishes (fun session => Settled session.disk root place (Knows store))
    (fun entry session => fact entry session.disk)
    (fun entry : String × Database => saveDatabase root entry.1 entry.2)
    store.databases.toList ?_ ?_ settled ends).2
  · intro entry member start stop startSettled step
    exact ⟨startSettled.of_saveDatabase (named entry member) (knows_of_mem member) step,
      brings entry member start stop startSettled step⟩
  · intro entry member other otherMember different start stop startSettled step holds
    obtain ⟨-, outside⟩ := saveDatabase_clears startSettled (named entry member)
      (knows_of_mem member) (parts entry member) step
    refine inside other start.disk stop.disk holds fun rest => ?_
    apply outside
    intro otherRest same
    rw [List.append_assoc, List.append_assoc] at same
    have sameName := (List.cons.inj (List.append_cancel_left same)).1
    exact different (eq_of_mem_toList member otherMember sameName.symm)

/-- Saving a store leaves no stale file in the directories of its databases. -/
theorem save_clears {store : Store} (settled : Settled before.disk root place (Knows store))
    (named : HasNames store) (parts : ∀ entry ∈ store.databases.toList, HasNameParts entry.2)
    (ends : (save store root).Ends before () after) :
    ∀ entry ∈ store.databases.toList, Cleared after.disk root place entry.1 entry.2 := by
  apply save_establishes (fun entry disk => Cleared disk root place entry.1 entry.2) settled named
    parts _ (fun _ _ _ cleared same => cleared.of_same same) ends
  intro entry member start stop startSettled step
  exact (saveDatabase_clears startSettled (named entry member) (knows_of_mem member)
    (parts entry member) step).1

/-- Saving a store puts the documents of its collections with plain names into their files. -/
theorem save_documents {store : Store} (settled : Settled before.disk root place (Knows store))
    (named : HasNames store) (parts : ∀ entry ∈ store.databases.toList, HasNameParts entry.2)
    (ends : (save store root).Ends before () after) :
    ∀ entry ∈ store.databases.toList, ∀ inner ∈ entry.2.toList, isPlain inner.1 = true →
      HoldsFile after.disk (root.child entry.1) (place ++ [entry.1]) (documentsFile inner.1)
        (documentsText inner.2) := by
  apply save_establishes (fun entry disk => ∀ inner ∈ entry.2.toList, isPlain inner.1 = true →
    HoldsFile disk (root.child entry.1) (place ++ [entry.1]) (documentsFile inner.1)
      (documentsText inner.2)) settled named parts _ _ ends
  · intro entry member start stop startSettled step
    exact saveDatabase_documents startSettled (named entry member) (knows_of_mem member)
      (parts entry member) step
  · intro entry disk other holds same inner member plain
    exact (holds inner member plain).of_same (same [_]) (same [_])

/-- Saving a store whose names are plain puts it into its directories and files. -/
theorem save_effect {store : Store} (settled : Settled before.disk root place (Knows store))
    (named : HasNames store) (plain : ∀ entry ∈ store.databases.toList, PlainlyNamed entry.2)
    (ends : (save store root).Ends before () after) : HoldsStore after.disk root place store := by
  apply save_establishes (fun entry disk => HoldsDatabase disk root place entry.1 entry.2) settled
    named (fun entry member => (plain entry member).hasNameParts) _
    (fun _ _ _ holds same => holds.of_same same) ends
  intro entry member start stop startSettled step
  exact saveDatabase_effect startSettled (named entry member) (knows_of_mem member)
    (plain entry member) step

/-- Saving a store once more changes nothing. -/
theorem ends_save_again {store : Store} (leads : before.disk.Leads root place)
    (allowed : checkLocation root = .ok ()) (named : HasNames store)
    (plain : ∀ entry ∈ store.databases.toList, PlainlyNamed entry.2)
    (holds : HoldsStore before.disk root place store) :
    ∃ after, (save store root).Ends before () after ∧
      after.disk.standing? = before.disk.standing? := by
  obtain ⟨after, ends, same⟩ := forM_ends
    (fun session => session.disk.standing? = before.disk.standing?)
    (fun entry : String × Database => saveDatabase root entry.1 entry.2)
    store.databases.toList (by
      intro entry member start same
      have startLeads : start.disk.Leads root place :=
        leads.mono fun inner isDirectory => by rw [same]; exact isDirectory
      have startHolds := (holds entry member).of_same fun rest => congrFun same _
      obtain ⟨stop, ends, unchanged⟩ :=
        ends_saveDatabase_again startLeads (named entry member) (plain entry member) startHolds
      exact ⟨stop, ends, unchanged.trans same⟩) rfl
  refine ⟨after, (ends_bind_iff ..).2 ⟨(), before, ?_, ends⟩, same⟩
  exact ends_createDirectories_self leads allowed

end DocStore.DataDirectory
