import DocStore.DataDirectory.Saving
import DocStore.Proofs.DataDirectory.Names
import DocStore.Proofs.Disk.Creation

/-!
Contract: what writing and sweeping the files of a collection does to a disk.

Whatever the collection is called, directories stay where they are. If its name
is plain, writing puts exactly its texts into its files, leaves no draft, and
touches nothing else; sweeping takes exactly the stale files away.

Owns: the effect of `writeFile`, `saveCollection` and `sweep`, and
`DataDirectory.HoldsCollection`.
-/

namespace DocStore.DataDirectory

open Disk Work

variable {directory root : Location} {place : Place} {before after : Session}

/-! ## Steps that keep directories -/

theorem writeFile_cases {name text : String}
    (ends : (writeFile directory name text).Ends before () after) :
    ∃ between, (perform (.write (directory.child (name ++ draftEnding)) text.toUTF8)).Ends
        before () between ∧
      (perform (.rename (directory.child (name ++ draftEnding)) (directory.child name))).Ends
        between () after := by
  unfold writeFile at ends
  obtain ⟨_, between, written, renamed⟩ := (ends_bind_iff ..).1 ends
  exact ⟨between, written, renamed⟩

theorem saveCollection_cases {name : String} {content : Collection}
    (ends : (saveCollection directory name content).Ends before () after) :
    ∃ between,
      (writeFile directory (documentsFile name) (documentsText content)).Ends before () between ∧
      ((content.indexes.isEmpty = true ∧
          between.disk.exists? (directory.child (indexesFile name)) = true ∧
          (perform (.remove (directory.child (indexesFile name)))).Ends between () after) ∨
        (content.indexes.isEmpty = true ∧
          between.disk.exists? (directory.child (indexesFile name)) = false ∧ after = between) ∨
        (content.indexes.isEmpty = false ∧
          (writeFile directory (indexesFile name) (indexesText content)).Ends between ()
            after)) := by
  unfold saveCollection at ends
  obtain ⟨_, between, written, ends⟩ := (ends_bind_iff ..).1 ends
  refine ⟨between, written, ?_⟩
  split at ends
  next isEmpty =>
    obtain ⟨disk, same, isDisk, ends⟩ := (ends_bind_iff ..).1 ends
    obtain ⟨rfl, rfl⟩ := (ends_disk_iff ..).1 isDisk
    split at ends
    next present => exact .inl ⟨isEmpty, present, ends⟩
    next absent =>
      refine .inr (.inl ⟨isEmpty, Bool.not_eq_true _ ▸ absent, ?_⟩)
      exact ((ends_pure_iff ..).1 ends).2
  next notEmpty => exact .inr (.inr ⟨Bool.not_eq_true _ ▸ notEmpty, ends⟩)

/-- Whether a file is kept for a collection that a database does not have. -/
def isStale (database : Database) (file : String) : Bool :=
  match collectionKept? file with
  | none => false
  | some collection => !database.contains collection

/-- A file that is kept for a collection and not stale has its collection in the database. -/
theorem exists_content_of_not_stale {database : Database} {file collection : String}
    (notStale : isStale database file = false) (isKept : collectionKept? file = some collection) :
    ∃ content, database.find? collection = some content := by
  unfold isStale at notStale
  rw [isKept, Bool.not_eq_false'] at notStale
  exact Option.isSome_iff_exists.1 notStale

theorem sweepFile_cases {database : Database} {file : String}
    (ends : (sweepFile directory database file).Ends before () after) :
    (isStale database file = false ∧ after = before) ∨
      (isStale database file = true ∧ ∃ between, between.disk = before.disk ∧
        (perform (.remove (directory.child file))).Ends between () after) := by
  unfold sweepFile at ends
  unfold isStale
  cases isKept : collectionKept? file with
  | none =>
      rw [isKept] at ends
      exact .inl ⟨rfl, ((ends_pure_iff ..).1 ends).2⟩
  | some collection =>
      simp only [isKept] at ends
      split at ends
      next present => exact .inl ⟨by simp [present], ((ends_pure_iff ..).1 ends).2⟩
      next absent =>
        obtain ⟨_, between, announced, ends⟩ := (ends_bind_iff ..).1 ends
        refine .inr ⟨by simpa using absent, between, ?_, ends⟩
        exact disk_of_ends_announce announced

theorem ends_sweepFile_of_not_stale {database : Database} {file : String}
    (notStale : isStale database file = false) (session : Session) :
    (sweepFile directory database file).Ends session () session := by
  unfold isStale at notStale
  unfold sweepFile
  split
  next => exact (ends_pure_iff ..).2 ⟨rfl, rfl⟩
  next collection isKept =>
    rw [isKept] at notStale
    rw [if_pos (by simpa using notStale)]
    exact (ends_pure_iff ..).2 ⟨rfl, rfl⟩

theorem sameDirectories_writeFile {stem ending text : String} (isEnding : IsEnding ending)
    (ends : (writeFile directory (stem ++ ending) text).Ends before () after) :
    SameDirectories before.disk after.disk := by
  obtain ⟨between, written, renamed⟩ := writeFile_cases ends
  have isDraftEnding : IsEnding draftEnding := by decide
  have first := sameDirectories_of_write isDraftEnding ((ends_perform_iff ..).1 written).1
  have second :=
    sameDirectories_of_rename isDraftEnding isEnding ((ends_perform_iff ..).1 renamed).1
  exact first.trans second

theorem sameDirectories_saveCollection {name : String} {content : Collection}
    (ends : (saveCollection directory name content).Ends before () after) :
    SameDirectories before.disk after.disk := by
  obtain ⟨between, written, rest⟩ := saveCollection_cases ends
  have isIndexesEnding : IsEnding indexesEnding := by decide
  have isDocumentsEnding : IsEnding documentsEnding := by decide
  have first := sameDirectories_writeFile isDocumentsEnding written
  rcases rest with ⟨-, -, removed⟩ | ⟨-, -, unchanged⟩ | ⟨-, written⟩
  · have second := sameDirectories_of_remove isIndexesEnding ((ends_perform_iff ..).1 removed).1
    exact first.trans second
  · rw [unchanged]
    exact first
  · exact first.trans (sameDirectories_writeFile isIndexesEnding written)

theorem sameDirectories_sweepFile {database : Database} {file : String}
    (ends : (sweepFile directory database file).Ends before () after) :
    SameDirectories before.disk after.disk := by
  rcases sweepFile_cases ends with ⟨-, unchanged⟩ | ⟨stale, between, sameDisk, removed⟩
  · rw [unchanged]
    exact SameDirectories.refl _
  · have isRemoved := ((ends_perform_iff ..).1 removed).1
    rw [sameDisk] at isRemoved
    unfold isStale at stale
    unfold collectionKept? at stale
    have isIndexesEnding : IsEnding indexesEnding := by decide
    have isDocumentsEnding : IsEnding documentsEnding := by decide
    cases indexes : Text.withoutSuffix? indexesEnding file with
    | some collection =>
        have shape := (Text.withoutSuffix?_eq_some_iff ..).1 indexes
        rw [shape] at isRemoved
        exact sameDirectories_of_remove isIndexesEnding isRemoved
    | none =>
        cases documents : Text.withoutSuffix? documentsEnding file with
        | some collection =>
            have shape := (Text.withoutSuffix?_eq_some_iff ..).1 documents
            rw [shape] at isRemoved
            exact sameDirectories_of_remove isDocumentsEnding isRemoved
        | none =>
            rw [indexes, documents] at stale
            cases stale

theorem sameDirectories_forM {Item : Type} (each : Item → Work Unit) (items : List Item)
    (keeps : ∀ item before after, (each item).Ends before () after →
      SameDirectories before.disk after.disk)
    (ends : (items.forM each).Ends before () after) :
    SameDirectories before.disk after.disk := by
  refine forM_keeps (fun session => SameDirectories before.disk session.disk) items ?_
    (SameDirectories.refl _) ends
  intro item _ first second soFar step
  exact soFar.trans (keeps item first second step)

theorem sweep_cases {database : Database} (ends : (sweep directory database).Ends before () after) :
    ∃ names, before.disk.list directory = .ok names ∧
      (names.forM (sweepFile directory database)).Ends before () after := by
  unfold sweep at ends
  obtain ⟨names, between, observed, ends⟩ := (ends_bind_iff ..).1 ends
  obtain ⟨listed, isBefore⟩ := (ends_observe_iff ..).1 observed
  rw [isBefore] at ends
  exact ⟨names, listed, ends⟩

theorem sameDirectories_sweep {database : Database}
    (ends : (sweep directory database).Ends before () after) :
    SameDirectories before.disk after.disk := by
  obtain ⟨names, -, ends⟩ := sweep_cases ends
  exact sameDirectories_forM (sweepFile directory database) names
    (fun _ _ _ step => sameDirectories_sweepFile step) ends

/-! ## Writing one file -/

/-- Whether a file and its draft can be asked for in a directory. -/
def AdmitsFile (directory : Location) (file : String) : Prop :=
  Admits directory (file ++ draftEnding) ∧ Admits directory file

/-- Writing a file puts its text in place and leaves no draft. -/
theorem writeFile_effect {file text : String} (leads : before.disk.Leads directory place)
    (named : isName file = true) (ends : (writeFile directory file text).Ends before () after) :
    AdmitsFile directory file ∧ ∀ other, after.disk.standing? other =
      if other = place ++ [file] then some (.file text.toUTF8)
      else if other = place ++ [file ++ draftEnding] then none
      else before.disk.standing? other := by
  obtain ⟨between, performed, renamed⟩ := writeFile_cases ends
  have draftNamed := isName_draft named
  obtain ⟨draftAdmitted, kept, drafted⟩ :=
    leads.write_child draftNamed ((ends_perform_iff ..).1 performed).1
  have betweenLeads := leads.mono fun inner => (kept.directories inner).2
  obtain ⟨admitted, content, present, moved⟩ :=
    betweenLeads.rename_child draftNamed named ((ends_perform_iff ..).1 renamed).1
  have isContent : content = text.toUTF8 := by
    rw [drafted, if_pos rfl] at present
    exact (Standing.file.inj (Option.some.inj present)).symm
  refine ⟨⟨draftAdmitted, admitted⟩, fun other => ?_⟩
  rw [moved, drafted, isContent]
  by_cases isFile : other = place ++ [file]
  · rw [if_pos isFile, if_pos isFile]
  · rw [if_neg isFile, if_neg isFile]
    by_cases isDraft : other = place ++ [file ++ draftEnding]
    · rw [if_pos isDraft, if_pos isDraft]
    · rw [if_neg isDraft, if_neg isDraft, if_neg isDraft]

/-- A file that can be asked for is written, unless directories are in its way. -/
theorem ends_writeFile {file : String} (text : String) (leads : before.disk.Leads directory place)
    (named : isName file = true) (admitted : AdmitsFile directory file)
    (noDraft : before.disk.standing? (place ++ [file ++ draftEnding]) ≠ some .directory)
    (notDirectory : before.disk.standing? (place ++ [file]) ≠ some .directory) :
    ∃ after, (writeFile directory file text).Ends before () after := by
  have draftNamed := isName_draft named
  have resolved := (leads.resolve_child_eq_ok_iff draftNamed _).2 ⟨admitted.1, rfl⟩
  have written : before.disk.perform (.write (directory.child (file ++ draftEnding)) text.toUTF8) =
      .ok (before.disk.put (place ++ [file ++ draftEnding]) (.file text.toUTF8)) :=
    (write_eq_ok_iff ..).2 ⟨_, resolved, noDraft, rfl⟩
  have performed := ends_perform written
  have drafted := standing?_put (.file text.toUTF8) rfl leads.isDirectory noDraft
  have kept := sameDirectories_put text.toUTF8 draftNamed leads.isDirectory noDraft
  have betweenLeads := leads.mono fun inner => (kept.directories inner).2
  obtain ⟨disk, renamed⟩ : ∃ disk,
      (before.disk.put (place ++ [file ++ draftEnding]) (.file text.toUTF8)).perform
        (.rename (directory.child (file ++ draftEnding)) (directory.child file)) = .ok disk := by
    refine ⟨_, (rename_eq_ok_iff ..).2 ⟨_, _, text.toUTF8,
      (betweenLeads.resolve_child_eq_ok_iff draftNamed _).2 ⟨admitted.1, rfl⟩,
      (betweenLeads.resolve_child_eq_ok_iff named _).2 ⟨admitted.2, rfl⟩, ?_, ?_, rfl⟩⟩
    · rw [drafted, if_pos rfl]
      rfl
    · exact fun isDirectory => notDirectory ((kept.directories _).1 isDirectory)
  exact ⟨_, (ends_bind_iff ..).2 ⟨(), _, performed, ends_perform renamed⟩⟩

/-- A file with its text in place and no draft beside it. -/
structure HoldsFile (disk : Disk) (directory : Location) (place : Place) (file text : String) :
    Prop where
  admitted : AdmitsFile directory file
  noDraft : disk.standing? (place ++ [file ++ draftEnding]) = none
  present : disk.standing? (place ++ [file]) = some (.file text.toUTF8)

theorem holdsFile_of_ends {file text : String} (leads : before.disk.Leads directory place)
    (named : isName file = true) (ends : (writeFile directory file text).Ends before () after) :
    HoldsFile after.disk directory place file text := by
  obtain ⟨admitted, effect⟩ := writeFile_effect leads named ends
  refine ⟨admitted, ?_, ?_⟩
  · rw [effect, if_neg (place_ne (file_ne_draft file)).symm, if_pos rfl]
  · rw [effect, if_pos rfl]

/-- Writing once more what a file holds changes nothing. -/
theorem ends_writeFile_again {file text : String} (leads : before.disk.Leads directory place)
    (named : isName file = true) (holds : HoldsFile before.disk directory place file text) :
    ∃ after, (writeFile directory file text).Ends before () after ∧
      after.disk.standing? = before.disk.standing? := by
  obtain ⟨after, ends⟩ := ends_writeFile text leads named holds.admitted
    (by rw [holds.noDraft]; simp) (by rw [holds.present]; simp)
  refine ⟨after, ends, ?_⟩
  funext other
  rw [(writeFile_effect leads named ends).2 other]
  split
  next same => rw [same, holds.present]
  next =>
    split
    next same => rw [same, holds.noDraft]
    next => rfl

/-! ## Writing the files of a collection -/

/-- A collection in its own files: the documents, and the indexed fields if there are any. -/
structure HoldsCollection (disk : Disk) (directory : Location) (place : Place) (name : String)
    (content : Collection) : Prop where
  documents : HoldsFile disk directory place (documentsFile name) (documentsText content)
  noIndexes : content.indexes.isEmpty = true → Admits directory (indexesFile name) →
    disk.standing? (place ++ [indexesFile name]) = none
  indexes : content.indexes.isEmpty = false →
    HoldsFile disk directory place (indexesFile name) (indexesText content)

theorem HoldsFile.of_same {disk other : Disk} {file text : String}
    (holds : HoldsFile disk directory place file text)
    (sameDraft : other.standing? (place ++ [file ++ draftEnding]) =
      disk.standing? (place ++ [file ++ draftEnding]))
    (sameFile : other.standing? (place ++ [file]) = disk.standing? (place ++ [file])) :
    HoldsFile other directory place file text where
  admitted := holds.admitted
  noDraft := sameDraft.trans holds.noDraft
  present := sameFile.trans holds.present

/-- Whether a collection is in its files is told by the places of its own files. -/
theorem HoldsCollection.of_same {disk other : Disk} {name : String} {content : Collection}
    (holds : HoldsCollection disk directory place name content)
    (same : ∀ file ∈ ownFiles name,
      other.standing? (place ++ [file]) = disk.standing? (place ++ [file])) :
    HoldsCollection other directory place name content := by
  have sameIndexes := same (indexesFile name) (by simp [ownFiles])
  refine ⟨?_, ?_, ?_⟩
  · exact holds.documents.of_same (same _ (by simp [ownFiles])) (same _ (by simp [ownFiles]))
  · intro isEmpty admitted
    rw [sameIndexes]
    exact holds.noIndexes isEmpty admitted
  · intro notEmpty
    exact (holds.indexes notEmpty).of_same (same _ (by simp [ownFiles])) sameIndexes

theorem HoldsFile.of_writeFile {file text other otherText : String}
    (leads : before.disk.Leads directory place) (named : isName other = true)
    (ends : (writeFile directory other otherText).Ends before () after)
    (different : file ≠ other) (notDraft : file ≠ other ++ draftEnding)
    (draftNot : file ++ draftEnding ≠ other)
    (holds : HoldsFile before.disk directory place file text) :
    HoldsFile after.disk directory place file text := by
  obtain ⟨-, effect⟩ := writeFile_effect leads named ends
  apply holds.of_same
  · have draftsDiffer : file ++ draftEnding ≠ other ++ draftEnding :=
      fun same => different ((String.append_left_inj draftEnding).1 same)
    rw [effect, if_neg (place_ne draftNot), if_neg (place_ne draftsDiffer)]
  · rw [effect, if_neg (place_ne different), if_neg (place_ne notDraft)]

/-- Saving a collection puts it into its files. -/
theorem holdsCollection_of_ends {name : String} {content : Collection}
    (leads : before.disk.Leads directory place) (plain : isPlain name = true)
    (ends : (saveCollection directory name content).Ends before () after) :
    HoldsCollection after.disk directory place name content := by
  obtain ⟨stemmed, -, -⟩ := (isPlain_iff name).1 plain
  have indexesNamed := isName_indexesFile (isNamePart_of_isStem stemmed)
  obtain ⟨between, written, rest⟩ := saveCollection_cases ends
  have documentsNamed := isName_documentsFile (isNamePart_of_isStem stemmed)
  have documents := holdsFile_of_ends leads documentsNamed written
  have isDocumentsEnding : IsEnding documentsEnding := by decide
  have kept := sameDirectories_writeFile isDocumentsEnding written
  have betweenLeads := leads.mono fun inner => (kept.directories inner).2
  -- The file of indexed fields is neither the file of documents nor its draft.
  have notDocuments := documentsFile_ne_indexesFile plain name
  have notDraft : documentsFile name ++ draftEnding ≠ indexesFile name :=
    (indexesFile_ne_draft name (documentsFile name)).symm
  rcases rest with ⟨isEmpty, -, removed⟩ | ⟨isEmpty, absent, unchanged⟩ | ⟨notEmpty, fieldsWritten⟩
  · have erased := betweenLeads.remove_child indexesNamed ((ends_perform_iff ..).1 removed).1
    refine ⟨documents.of_same ?_ ?_, ?_, ?_⟩
    · rw [erased, if_neg (place_ne notDraft)]
    · rw [erased, if_neg (place_ne notDocuments)]
    · intro _ _
      rw [erased, if_pos rfl]
    · intro notEmpty
      rw [isEmpty] at notEmpty
      cases notEmpty
  · rw [unchanged]
    refine ⟨documents, ?_, ?_⟩
    · intro _ admitted
      apply Classical.byContradiction
      intro present
      rw [(betweenLeads.exists?_child_eq_true_iff indexesNamed).2 ⟨admitted, present⟩] at absent
      cases absent
    · intro notEmpty
      rw [isEmpty] at notEmpty
      cases notEmpty
  · refine ⟨?_, ?_, ?_⟩
    · exact documents.of_writeFile betweenLeads indexesNamed fieldsWritten notDocuments
        (documentsFile_ne_draft name (indexesFile name)) notDraft
    · intro isEmpty
      rw [isEmpty] at notEmpty
      cases notEmpty
    · exact fun _ => holdsFile_of_ends betweenLeads indexesNamed fieldsWritten

/-- Saving a collection touches no place but those of its files. -/
theorem saveCollection_spares {name : String} {content : Collection}
    (leads : before.disk.Leads directory place) (isPart : isNamePart name = true)
    (ends : (saveCollection directory name content).Ends before () after) {other : Place}
    (elsewhere : ∀ file ∈ ownFiles name, other ≠ place ++ [file]) :
    after.disk.standing? other = before.disk.standing? other := by
  have indexesNamed := isName_indexesFile isPart
  have notIndexes := elsewhere (indexesFile name) (by simp [ownFiles])
  obtain ⟨between, written, rest⟩ := saveCollection_cases ends
  have spared : between.disk.standing? other = before.disk.standing? other := by
    rw [(writeFile_effect leads (isName_documentsFile isPart) written).2,
      if_neg (elsewhere _ (by simp [ownFiles])), if_neg (elsewhere _ (by simp [ownFiles]))]
  have isDocumentsEnding : IsEnding documentsEnding := by decide
  have kept := sameDirectories_writeFile isDocumentsEnding written
  have betweenLeads := leads.mono fun inner => (kept.directories inner).2
  rcases rest with ⟨-, -, removed⟩ | ⟨-, -, unchanged⟩ | ⟨-, fieldsWritten⟩
  · rw [betweenLeads.remove_child indexesNamed ((ends_perform_iff ..).1 removed).1,
      if_neg notIndexes]
    exact spared
  · rw [unchanged]
    exact spared
  · rw [(writeFile_effect betweenLeads indexesNamed fieldsWritten).2, if_neg notIndexes,
      if_neg (elsewhere _ (by simp [ownFiles]))]
    exact spared

/-- Saving a collection once more changes nothing, if its texts are the same. -/
theorem ends_saveCollection_again {name : String} {content : Collection}
    (leads : before.disk.Leads directory place) (plain : isPlain name = true)
    (holds : HoldsCollection before.disk directory place name content) :
    ∃ after, (saveCollection directory name content).Ends before () after ∧
      after.disk.standing? = before.disk.standing? := by
  obtain ⟨stemmed, -, -⟩ := (isPlain_iff name).1 plain
  have indexesNamed := isName_indexesFile (isNamePart_of_isStem stemmed)
  have documentsNamed := isName_documentsFile (isNamePart_of_isStem stemmed)
  obtain ⟨between, written, same⟩ := ends_writeFile_again leads documentsNamed holds.documents
  have betweenLeads : between.disk.Leads directory place :=
    leads.mono fun inner isDirectory => by rw [same]; exact isDirectory
  cases isEmpty : content.indexes.isEmpty with
  | true =>
      have absent : between.disk.exists? (directory.child (indexesFile name)) ≠ true := by
        intro present
        obtain ⟨admitted, found⟩ := (betweenLeads.exists?_child_eq_true_iff indexesNamed).1 present
        rw [same] at found
        exact found (holds.noIndexes isEmpty admitted)
      refine ⟨between, (ends_bind_iff ..).2 ⟨(), between, written, ?_⟩, same⟩
      rw [if_pos isEmpty]
      refine (ends_bind_iff ..).2 ⟨between.disk, between, (ends_disk_iff ..).2 ⟨rfl, rfl⟩, ?_⟩
      rw [if_neg absent]
      exact (ends_pure_iff ..).2 ⟨rfl, rfl⟩
  | false =>
      have stillHolds : HoldsFile between.disk directory place (indexesFile name)
          (indexesText content) :=
        (holds.indexes isEmpty).of_same (by rw [same]) (by rw [same])
      obtain ⟨after, fieldsWritten, sameAgain⟩ :=
        ends_writeFile_again betweenLeads indexesNamed stillHolds
      refine ⟨after, (ends_bind_iff ..).2 ⟨(), between, written, ?_⟩, sameAgain.trans same⟩
      rw [if_neg (by rw [isEmpty]; exact Bool.false_ne_true)]
      exact fieldsWritten

/-! ## Sweeping -/

theorem sweepFile_effect {database : Database} {file : String}
    (leads : before.disk.Leads directory place) (named : isName file = true)
    (ends : (sweepFile directory database file).Ends before () after) (other : Place) :
    after.disk.standing? other =
      if isStale database file = true ∧ other = place ++ [file] then none
      else before.disk.standing? other := by
  rcases sweepFile_cases ends with ⟨notStale, unchanged⟩ | ⟨stale, between, sameDisk, removed⟩
  · rw [unchanged, notStale]
    simp
  · have isRemoved := ((ends_perform_iff ..).1 removed).1
    rw [sameDisk] at isRemoved
    rw [leads.remove_child named isRemoved, stale]
    simp

/-- A sweep takes the stale files away and touches no other place. -/
theorem sweep_effect {database : Database} (leads : before.disk.Leads directory place)
    (named : ∀ file, before.disk.standing? (place ++ [file]) ≠ none → isName file = true)
    (ends : (sweep directory database).Ends before () after) :
    (∀ file, isStale database file = true → after.disk.standing? (place ++ [file]) = none) ∧
      ∀ other, (∀ file, isStale database file = true → other ≠ place ++ [file]) →
        after.disk.standing? other = before.disk.standing? other := by
  obtain ⟨names, listed, ends⟩ := sweep_cases ends
  have members := leads.mem_list_iff listed
  let spared (session : Session) : Prop := session.disk.Leads directory place ∧
    (∀ other, (∀ file, isStale database file = true → other ≠ place ++ [file]) →
      session.disk.standing? other = before.disk.standing? other) ∧
    ∀ other, before.disk.standing? other = none → session.disk.standing? other = none
  let gone (file : String) (session : Session) : Prop := isStale database file = true →
    session.disk.standing? (place ++ [file]) = none
  have result := forM_establishes spared gone (sweepFile directory database) names ?_ ?_
    ⟨leads, fun _ _ => rfl, fun _ absent => absent⟩ ends
  · obtain ⟨⟨-, kept, stillAbsent⟩, allGone⟩ := result
    refine ⟨fun file stale => ?_, kept⟩
    by_cases member : file ∈ names
    · exact allGone file member stale
    · rw [members, Classical.not_not] at member
      exact stillAbsent _ member
  · intro file member start stop ⟨startLeads, startSpared, stillAbsent⟩ step
    have effect := sweepFile_effect startLeads (named file ((members file).1 member)) step
    have kept := sameDirectories_sweepFile step
    refine ⟨⟨startLeads.mono fun inner => (kept.directories inner).2, ?_, ?_⟩, ?_⟩
    · intro other elsewhere
      rw [effect, if_neg fun both => elsewhere file both.1 both.2]
      exact startSpared other elsewhere
    · intro other absent
      rw [effect, stillAbsent other absent]
      split <;> rfl
    · intro stale
      rw [effect, if_pos ⟨stale, rfl⟩]
  · intro file member other otherMember _ start stop ⟨startLeads, _, _⟩ step goneBefore stale
    rw [sweepFile_effect startLeads (named file ((members file).1 member)) step]
    split
    · rfl
    · exact goneBefore stale

end DocStore.DataDirectory
