import DocStore.Proofs.DataDirectory.RoundTrip
import DocStore.Proofs.Disk.Stopping

/-!
Contract: a save that stops early loses nothing but what was to be replaced.

While a store is saved over an older one, every file of a collection is absent,
as it was, or holds the whole of its new text; drafts may hold anything. This is
kept by every action and by every write that breaks off, and the documents of a
collection with a plain name never go missing where they were there before. A
disk that is left in such a state is loaded with the documents of the old or of
the new store in each collection.

Owns: `DataDirectory.Between`, the stops of `save`, and loading what they leave.
-/

namespace DocStore.DataDirectory

open Disk Work

/-! ## Between two stores -/

/-- The text that a store has for a file of one of its databases. -/
def FileText (store : Store) (database file text : String) : Prop :=
  ∃ collection content, store.collection database collection = .ok content ∧
    (file = documentsFile collection ∧ text = documentsText content ∨
      file = indexesFile collection ∧ content.indexes.isEmpty = false ∧
        text = indexesText content)

/-- A file that is absent, as it was on an older disk, or holds the whole text that a store has for
it. -/
def Whole (old left : Disk) (root : Location) (place : Place) (store : Store)
    (database file : String) : Prop :=
  left.standing? (place ++ [database] ++ [file]) = none ∨
    left.standing? (place ++ [database] ++ [file]) =
      old.standing? (place ++ [database] ++ [file]) ∨
    ∃ text, FileText store database file text ∧ Admits (root.child database) file ∧
      left.standing? (place ++ [database] ++ [file]) = some (.file text.toUTF8)

/-- A disk on the way from an older disk to one that holds a store: no file of a collection is
torn, and no documents that the store has under a plain name go missing. -/
structure Between (old : Disk) (root : Location) (place : Place) (known : String → Prop)
    (store : Store) (left : Disk) : Prop where
  settled : Settled left root place known
  whole : ∀ database file, collectionKept? file ≠ none →
    Whole old left root place store database file
  kept : ∀ database collection content, store.collection database collection = .ok content →
    isPlain collection = true →
      old.standing? (place ++ [database] ++ [documentsFile collection]) ≠ none →
        left.standing? (place ++ [database] ++ [documentsFile collection]) ≠ none

variable {old left next : Disk} {root : Location} {place : Place} {known : String → Prop}
  {store : Store} {before : Session}

theorem filePlace_inj {database other file otherFile : String} :
    place ++ [database] ++ [file] = place ++ [other] ++ [otherFile] ↔
      database = other ∧ file = otherFile := by
  simp

/-- A change of files is on the way when every file that it changes is taken away, unless it holds
documents that the store has under a plain name, or is given its whole new text. -/
theorem Between.of_change (between : Between old root place known store left)
    (sameDirectories : SameDirectories left next)
    (changes : ∀ database file, collectionKept? file ≠ none →
      next.standing? (place ++ [database] ++ [file]) =
          left.standing? (place ++ [database] ++ [file]) ∨
        (next.standing? (place ++ [database] ++ [file]) = none ∧
          ∀ collection content, store.collection database collection = .ok content →
            isPlain collection = true → file ≠ documentsFile collection) ∨
        ∃ text, FileText store database file text ∧ Admits (root.child database) file ∧
          next.standing? (place ++ [database] ++ [file]) = some (.file text.toUTF8)) :
    Between old root place known store next where
  settled := between.settled.of_sameDirectories sameDirectories
  whole database file isKept := by
    rcases changes database file isKept with same | ⟨gone, -⟩ | renewed
    · unfold Whole
      rw [same]
      exact between.whole database file isKept
    · exact .inl gone
    · exact .inr (.inr renewed)
  kept database collection content found plain present := by
    have stillThere := between.kept database collection content found plain present
    rcases changes database _ (collectionKept?_documentsFile_ne_none collection) with
      same | ⟨-, notDocuments⟩ | ⟨text, -, -, renewed⟩
    · rw [same]
      exact stillThere
    · exact absurd rfl (notDocuments collection content found plain)
    · rw [renewed]
      exact Option.some_ne_none _

/-- Adding the directory of a known database is on the way. -/
theorem Between.of_created (between : Between old root place known store left) {name : String}
    (named : isName name = true) (isKnown : known name)
    (created : ∀ other, next.standing? other =
      if other = place ++ [name] then some .directory else left.standing? other) :
    Between old root place known store next := by
  have same : ∀ database file, next.standing? (place ++ [database] ++ [file]) =
      left.standing? (place ++ [database] ++ [file]) := by
    intro database file
    rw [created, if_neg (by simp)]
  refine ⟨between.settled.of_created named isKnown created, ?_, ?_⟩
  · intro database file isKept
    unfold Whole
    rw [same]
    exact between.whole database file isKept
  · intro database collection content found plain present
    rw [same]
    exact between.kept database collection content found plain present

/-! ## Stops while a database is written -/

section Database

variable {name : String}

theorem guards_writeFile {file text : String}
    (between : Between old root place known store before.disk)
    (leads : before.disk.Leads (root.child name) (place ++ [name]))
    (named : isName file = true) (isText : FileText store name file text) :
    Guards (Between old root place known store) (writeFile (root.child name) file text) before := by
  have draftNamed := isName_draft named
  -- Whatever has been written into the draft, no file of a collection has been touched.
  have drafted : ∀ part disk,
      before.disk.write ((root.child name).child (file ++ draftEnding)) part = .ok disk →
        Between old root place known store disk := by
    intro part disk written
    rcases leads.write_child draftNamed written with ⟨-, sameDirectories, change⟩
    apply between.of_change sameDirectories
    intro database other isKept
    apply Or.inl
    rw [change, if_neg]
    rw [filePlace_inj]
    rintro ⟨-, isDraft⟩
    rw [isDraft, collectionKept?_draft] at isKept
    exact isKept rfl
  unfold writeFile
  apply guards_bind
  · exact guards_write between drafted
  · intro _ middle written
    have isWritten := ((ends_perform_iff ..).1 written).1
    apply guards_rename (drafted _ _ isWritten)
    intro disk renamed
    rcases leads.write_child draftNamed isWritten with ⟨-, sameFirst, -⟩
    have middleLeads := leads.mono fun inner => (sameFirst.directories inner).2
    have sameSecond := middleLeads.sameDirectories_rename_child draftNamed named renamed
    have moved : middle.disk.perform (.rename ((root.child name).child (file ++ draftEnding))
        ((root.child name).child file)) = .ok disk := renamed
    have ends : (writeFile (root.child name) file text).Ends before () _ :=
      (ends_bind_iff ..).2 ⟨(), middle, written, ends_perform moved⟩
    rcases writeFile_effect leads named ends with ⟨⟨-, admitted⟩, effect⟩
    apply between.of_change (sameFirst.trans sameSecond)
    intro database other isKept
    by_cases isFile : place ++ [database] ++ [other] = place ++ [name] ++ [file]
    · rcases filePlace_inj.1 isFile with ⟨isName, isOther⟩
      rw [isName, isOther]
      refine .inr (.inr ⟨text, isText, admitted, ?_⟩)
      exact (effect _).trans (if_pos rfl)
    · apply Or.inl
      have notDraft :
          place ++ [database] ++ [other] ≠ place ++ [name] ++ [file ++ draftEnding] := by
        rw [ne_eq, filePlace_inj]
        rintro ⟨-, isDraft⟩
        rw [isDraft, collectionKept?_draft] at isKept
        exact isKept rfl
      exact (effect _).trans ((if_neg isFile).trans (if_neg notDraft))

/-- Taking a file away is on the way, unless it holds documents that the store has under a plain
name. -/
theorem between_of_remove {file : String} (between : Between old root place known store before.disk)
    (leads : before.disk.Leads (root.child name) (place ++ [name])) (named : isName file = true)
    (notDocuments : ∀ collection content, store.collection name collection = .ok content →
      isPlain collection = true → file ≠ documentsFile collection) {disk : Disk}
    (removed : before.disk.remove ((root.child name).child file) = .ok disk) :
    Between old root place known store disk := by
  apply between.of_change (leads.sameDirectories_remove_child named removed)
  intro database other isKept
  rw [leads.remove_child named removed]
  by_cases isFile : place ++ [database] ++ [other] = place ++ [name] ++ [file]
  · rcases filePlace_inj.1 isFile with ⟨isName, isOther⟩
    rw [isName, isOther, if_pos rfl]
    exact .inr (.inl ⟨rfl, notDocuments⟩)
  · rw [if_neg isFile]
    exact .inl rfl

theorem guards_saveCollection {collection : String} {content : Collection}
    (isPart : isNamePart collection = true)
    (found : store.collection name collection = .ok content)
    (between : Between old root place known store before.disk)
    (leads : before.disk.Leads (root.child name) (place ++ [name])) :
    Guards (Between old root place known store)
      (saveCollection (root.child name) collection content) before := by
  have guarded := guards_writeFile between leads (isName_documentsFile isPart)
    ⟨collection, content, found, .inl ⟨rfl, rfl⟩⟩
  unfold saveCollection
  apply guards_bind guarded
  intro _ middle written
  have middleBetween := guarded.of_ends written
  have isDocumentsEnding : IsEnding documentsEnding := by decide
  have same := sameDirectories_writeFile isDocumentsEnding written
  have middleLeads := leads.mono fun inner => (same.directories inner).2
  split
  next isEmpty =>
    apply guards_bind (guards_disk middleBetween)
    intro disk reached isDisk
    rw [((ends_disk_iff ..).1 isDisk).2]
    split
    · apply guards_remove middleBetween
      intro disk removed
      apply between_of_remove middleBetween middleLeads (isName_indexesFile isPart) _ removed
      intro other _ _ plain
      exact (documentsFile_ne_indexesFile plain collection).symm
    · exact guards_pure middleBetween ()
  next notEmpty =>
    apply guards_writeFile middleBetween middleLeads (isName_indexesFile isPart)
    exact ⟨collection, content, found, .inr ⟨rfl, Bool.not_eq_true _ ▸ notEmpty, rfl⟩⟩

theorem guards_sweepFile {database : Database} {file : String}
    (inStore : store.databases.find? name = some database) (named : isName file = true)
    (between : Between old root place known store before.disk)
    (leads : before.disk.Leads (root.child name) (place ++ [name])) :
    Guards (Between old root place known store) (sweepFile (root.child name) database file)
      before := by
  unfold sweepFile
  split
  next => exact guards_pure between ()
  next collection isKept =>
    split
    next => exact guards_pure between ()
    next absent =>
      apply guards_bind (guards_announce between _)
      intro _ middle announced
      have sameDisk := disk_of_ends_announce announced
      have middleBetween : Between old root place known store middle.disk := sameDisk ▸ between
      have middleLeads : middle.disk.Leads (root.child name) (place ++ [name]) := sameDisk ▸ leads
      apply guards_remove middleBetween
      intro disk removed
      apply between_of_remove middleBetween middleLeads named _ removed
      -- A file of documents that the store has is not stale.
      intro other content found plain isFile
      rw [isFile, collectionKept?_documentsFile plain] at isKept
      rcases (Store.collection_eq_ok_iff ..).1 found with ⟨collections, found, inDatabase⟩
      rw [inStore] at found
      apply absent
      unfold SortedMap.contains
      rw [← Option.some.inj isKept, Option.some.inj found, inDatabase]
      rfl

/-- A session at a known directory of a database, on the way. -/
def AtDatabase (old : Disk) (root : Location) (place : Place) (known : String → Prop)
    (store : Store) (name : String) (session : Session) : Prop :=
  Between old root place known store session.disk ∧
    session.disk.Leads (root.child name) (place ++ [name])

theorem guards_sweep {database : Database}
    (inStore : store.databases.find? name = some database)
    (start : AtDatabase old root place known store name before) :
    Guards (Between old root place known store) (sweep (root.child name) database) before := by
  unfold sweep
  apply guards_bind (guards_observe start.1)
  intro names middle observed
  rcases (ends_observe_iff ..).1 observed with ⟨listed, isStart⟩
  rw [isStart]
  have isNamed : ∀ file ∈ names, isName file = true := by
    intro file member
    have present := (start.2.mem_list_iff listed file).1 member
    rw [List.append_assoc] at present
    exact start.1.settled.named _ present file (by simp)
  have guards : ∀ file ∈ names, ∀ session, AtDatabase old root place known store name session →
      Guards (Between old root place known store) (sweepFile (root.child name) database file)
        session :=
    fun file member session good =>
      guards_sweepFile inStore (isNamed file member) good.1 good.2
  apply guards_forM (AtDatabase old root place known store name) _ _ (fun _ good => good.1) guards
    _ start
  intro file member session after good ends
  have same := sameDirectories_sweepFile ends
  exact ⟨(guards file member session good).of_ends ends,
    good.2.mono fun inner => (same.directories inner).2⟩

theorem guards_saveDatabase {database : Database} (parts : HasNameParts database)
    (inStore : store.databases.find? name = some database) (named : isName name = true)
    (isKnown : known name) (between : Between old root place known store before.disk) :
    Guards (Between old root place known store) (saveDatabase root name database) before := by
  have creating : Guards (Between old root place known store)
      (createDirectories (root.child name)) before := by
    apply guards_createDirectories_child between.settled.leads named between
    intro disk created
    exact between.of_created named isKnown (between.settled.leads.created_child named created).2
  unfold saveDatabase
  apply guards_bind creating
  intro _ created isCreated
  rcases createDirectories_child_effect between.settled.leads named isCreated with
    ⟨admitted, effect⟩
  have createdBetween := creating.of_ends isCreated
  have createdLeads : created.disk.Leads (root.child name) (place ++ [name]) :=
    createdBetween.settled.leads.child named admitted.2 (by rw [effect, if_pos rfl])
  have guards : ∀ entry ∈ database.toList, ∀ session,
      AtDatabase old root place known store name session →
        Guards (Between old root place known store)
          (saveCollection (root.child name) entry.1 entry.2) session := by
    intro entry member session good
    apply guards_saveCollection (parts entry member) _ good.1 good.2
    exact (Store.collection_eq_ok_iff ..).2 ⟨database, inStore,
      (database.mem_toList_iff ..).1 member⟩
  have keeps : ∀ entry ∈ database.toList, ∀ session after,
      AtDatabase old root place known store name session →
        (saveCollection (root.child name) entry.1 entry.2).Ends session () after →
          AtDatabase old root place known store name after := by
    intro entry member session after good ends
    have same := sameDirectories_saveCollection ends
    exact ⟨(guards entry member session good).of_ends ends,
      good.2.mono fun inner => (same.directories inner).2⟩
  apply guards_bind
  · exact guards_forM (AtDatabase old root place known store name)
      (fun entry : String × Collection => saveCollection (root.child name) entry.1 entry.2) _
      (fun _ good => good.1) guards keeps ⟨createdBetween, createdLeads⟩
  · intro _ filled isFilled
    apply guards_sweep inStore
    exact forM_keeps (AtDatabase old root place known store name) database.toList keeps
      ⟨createdBetween, createdLeads⟩ isFilled

end Database

/-- Wherever a save stops, the disk is on the way. -/
theorem guards_save (parts : ∀ entry ∈ store.databases.toList, HasNameParts entry.2)
    (named : HasNames store) (isKnown : ∀ name, Knows store name → known name)
    (between : Between old root place known store before.disk) :
    Guards (Between old root place known store) (save store root) before := by
  have unchanged := ends_createDirectories_self between.settled.leads between.settled.allowed
  have guards : ∀ entry ∈ store.databases.toList, ∀ session,
      Between old root place known store session.disk →
        Guards (Between old root place known store) (saveDatabase root entry.1 entry.2) session :=
    fun entry member session good =>
      guards_saveDatabase (parts entry member) ((store.databases.mem_toList_iff ..).1 member)
        (named entry member) (isKnown _ (knows_of_mem member)) good
  unfold save
  apply guards_bind (guards_of_ends_self between unchanged)
  intro _ created isCreated
  rw [(Prod.mk.inj (isCreated.symm.trans unchanged)).2]
  exact guards_forM (fun session => Between old root place known store session.disk)
    (fun entry : String × Database => saveDatabase root entry.1 entry.2) _ (fun _ good => good)
    guards (fun entry member session after good ends =>
      (guards entry member session good).of_ends ends) between

end DocStore.DataDirectory
