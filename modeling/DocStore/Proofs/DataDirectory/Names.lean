import DocStore.DataDirectory.Names
import DocStore.Proofs.Disk.Resolution
import DocStore.Proofs.Text.Suffix

/-!
Contract: file names and collection names belong together.

A text is part of a name when it has no slash and no NUL in it, and the stem of
a file when it is not empty either. A stem is plain when it ends neither like a
file of documents nor like one of indexed fields without its last ending. Then
its two files and their drafts are four different names, none of them is a file
of another plain collection, and the reader and the sweep take every one of them
for what it is. No collection at all writes to the documents of a plain one but
that collection itself. A collection name can be stored when it is plain and
names an entry of a directory.

Owns: `DataDirectory.isNamePart`, `DataDirectory.isStem`, `DataDirectory.isPlain`,
`DataDirectory.isCollectionName`, `DataDirectory.collectionOf?` and the laws of
file names.
-/

namespace DocStore.DataDirectory

open Text Disk

/-- The ending of a name that must not be mistaken for a file of indexed fields. -/
def fieldsEnding : String := ".indexes"

/-- Whether a collection can be stored under its name. -/
def isCollectionName (name : String) : Bool :=
  isName name && !endsWith name documentsEnding && !endsWith name fieldsEnding

theorem isCollectionName_iff (name : String) :
    isCollectionName name = true ↔ isName name = true ∧ endsWith name documentsEnding = false ∧
      endsWith name fieldsEnding = false := by
  unfold isCollectionName
  simp [and_assoc]

/-- Whether a text has nothing in it that no name has. -/
def isNamePart (text : String) : Bool :=
  !text.toList.contains '/' && !text.toList.contains '\x00'

theorem isNamePart_iff (text : String) :
    isNamePart text = true ↔ '/' ∉ text.toList ∧ '\x00' ∉ text.toList := by
  unfold isNamePart
  simp

theorem isNamePart_of_isName {name : String} (named : isName name = true) :
    isNamePart name = true :=
  (isNamePart_iff name).2 ((isName_iff name).1 named).2.2

/-- Whether a text can stand before the ending of a file's name. -/
def isStem (name : String) : Bool :=
  name != "" && isNamePart name

theorem isStem_iff (name : String) :
    isStem name = true ↔ name ≠ "" ∧ '/' ∉ name.toList ∧ '\x00' ∉ name.toList := by
  unfold isStem
  rw [Bool.and_eq_true, bne_iff_ne, isNamePart_iff]

theorem isNamePart_of_isStem {name : String} (stemmed : isStem name = true) :
    isNamePart name = true :=
  (isNamePart_iff name).2 ((isStem_iff name).1 stemmed).2

theorem isStem_of_isName {name : String} (named : isName name = true) : isStem name = true := by
  obtain ⟨notIdle, -, slashless, noNul⟩ := (isName_iff name).1 named
  refine (isStem_iff name).2 ⟨?_, slashless, noNul⟩
  intro isEmpty
  rw [isEmpty] at notIdle
  cases notIdle

/-- Whether a stem ends like no file of a collection. -/
def isPlain (name : String) : Bool :=
  isStem name && !endsWith name documentsEnding && !endsWith name fieldsEnding

theorem isPlain_iff (name : String) :
    isPlain name = true ↔ isStem name = true ∧ endsWith name documentsEnding = false ∧
      endsWith name fieldsEnding = false := by
  unfold isPlain
  simp [and_assoc]

theorem isPlain_of_isCollectionName {name : String} (storable : isCollectionName name = true) :
    isPlain name = true := by
  obtain ⟨named, notJson, notFields⟩ := (isCollectionName_iff name).1 storable
  exact (isPlain_iff name).2 ⟨isStem_of_isName named, notJson, notFields⟩

/-- The collection that a file belongs to, be it in place or a draft. -/
def collectionOf? (file : String) : Option String :=
  collectionKept? ((withoutSuffix? draftEnding file).getD file)

/-! ## Endings -/

theorem indexesFile_eq_documentsFile (collection : String) :
    indexesFile collection = documentsFile (collection ++ fieldsEnding) := by
  unfold indexesFile documentsFile
  rw [String.append_assoc]
  rfl

theorem documentsFile_ne_draft (collection file : String) :
    documentsFile collection ≠ file ++ draftEnding := by
  intro same
  have lasts := congrArg (fun text => text.toList.getLast?) same
  simp [documentsFile, documentsEnding, draftEnding] at lasts

theorem indexesFile_ne_draft (collection file : String) :
    indexesFile collection ≠ file ++ draftEnding := by
  rw [indexesFile_eq_documentsFile]
  exact documentsFile_ne_draft _ file

theorem file_ne_draft (file : String) : file ≠ file ++ draftEnding := by
  intro same
  have lengths := congrArg (fun text => text.toList.length) same
  simp [draftEnding] at lengths

theorem withoutSuffix?_draftEnding_documentsFile (collection : String) :
    withoutSuffix? draftEnding (documentsFile collection) = none := by
  cases found : withoutSuffix? draftEnding (documentsFile collection) with
  | none => rfl
  | some stem =>
      have isDraft := (withoutSuffix?_eq_some_iff ..).1 found
      exact absurd isDraft (documentsFile_ne_draft collection stem)

theorem collectionOf?_draft (file : String) :
    collectionOf? (file ++ draftEnding) = collectionKept? file := by
  unfold collectionOf?
  rw [withoutSuffix?_append]
  rfl

theorem collectionOf?_documentsFile (collection : String) :
    collectionOf? (documentsFile collection) = collectionKept? (documentsFile collection) := by
  unfold collectionOf?
  rw [withoutSuffix?_draftEnding_documentsFile]
  rfl

theorem collectionOf?_indexesFile (collection : String) :
    collectionOf? (indexesFile collection) = collectionKept? (indexesFile collection) := by
  rw [indexesFile_eq_documentsFile]
  exact collectionOf?_documentsFile _

/-! ## Collections of files -/

theorem collectionKept?_indexesFile (collection : String) :
    collectionKept? (indexesFile collection) = some collection := by
  unfold collectionKept? indexesFile
  rw [withoutSuffix?_append]

theorem withoutSuffix?_indexesEnding_documentsFile {collection : String}
    (bare : endsWith collection fieldsEnding = false) :
    withoutSuffix? indexesEnding (documentsFile collection) = none := by
  cases found : withoutSuffix? indexesEnding (documentsFile collection) with
  | none => rfl
  | some stem =>
      have same : documentsFile collection = indexesFile stem :=
        (withoutSuffix?_eq_some_iff ..).1 found
      rw [indexesFile_eq_documentsFile] at same
      have ends : endsWith collection fieldsEnding = true :=
        (endsWith_iff ..).2 ⟨stem, (String.append_left_inj documentsEnding).1 same⟩
      rw [ends] at bare
      cases bare

theorem collectionKept?_documentsFile {collection : String}
    (plain : isPlain collection = true) :
    collectionKept? (documentsFile collection) = some collection := by
  obtain ⟨-, -, bare⟩ := (isPlain_iff collection).1 plain
  unfold collectionKept?
  rw [withoutSuffix?_indexesEnding_documentsFile bare]
  exact withoutSuffix?_append collection documentsEnding

/-- Every file of documents is kept for some collection. -/
theorem collectionKept?_documentsFile_ne_none (collection : String) :
    collectionKept? (documentsFile collection) ≠ none := by
  unfold collectionKept?
  split
  · exact Option.some_ne_none _
  · unfold documentsFile
    rw [withoutSuffix?_append]
    exact Option.some_ne_none _

/-- No draft is kept for a collection. -/
theorem collectionKept?_draft (file : String) : collectionKept? (file ++ draftEnding) = none := by
  cases isKept : collectionKept? (file ++ draftEnding) with
  | none => rfl
  | some collection =>
      unfold collectionKept? at isKept
      split at isKept
      next stem indexes =>
        have shape := (withoutSuffix?_eq_some_iff ..).1 indexes
        exact absurd shape.symm (indexesFile_ne_draft stem file)
      next =>
        have shape := (withoutSuffix?_eq_some_iff ..).1 isKept
        exact absurd shape.symm (documentsFile_ne_draft collection file)

/-- Only the two files of a collection are kept for it. -/
theorem collectionKept?_cases {collection file : String}
    (isKept : collectionKept? file = some collection) :
    file = documentsFile collection ∨ file = indexesFile collection := by
  unfold collectionKept? at isKept
  split at isKept
  next stem indexes =>
    rw [Option.some.inj isKept] at indexes
    exact .inr ((withoutSuffix?_eq_some_iff ..).1 indexes)
  next => exact .inl ((withoutSuffix?_eq_some_iff ..).1 isKept)

/-- What is read as documents is kept for the collection whose documents it would hold. -/
theorem collectionKept?_of_isDocumentsFile {file : String} (isFile : isDocumentsFile file = true) :
    ∃ collection, collectionKept? file = some collection ∧ file = documentsFile collection := by
  unfold isDocumentsFile at isFile
  rw [Bool.and_eq_true, Bool.and_eq_true, Bool.not_eq_true'] at isFile
  obtain ⟨⟨ends, -⟩, notIndexes⟩ := isFile
  obtain ⟨collection, shape⟩ := (endsWith_iff ..).1 ends
  refine ⟨collection, ?_, shape⟩
  unfold collectionKept?
  rw [(withoutSuffix?_eq_none_iff ..).2 notIndexes, shape]
  exact withoutSuffix?_append collection documentsEnding

theorem isDocumentsFile_documentsFile {collection : String}
    (plain : isPlain collection = true) :
    isDocumentsFile (documentsFile collection) = true := by
  obtain ⟨isStem, -, bare⟩ := (isPlain_iff collection).1 plain
  have ends : endsWith (documentsFile collection) documentsEnding = true :=
    (endsWith_iff ..).2 ⟨collection, rfl⟩
  have notIndexes : endsWith (documentsFile collection) indexesEnding = false :=
    (withoutSuffix?_eq_none_iff ..).1 (withoutSuffix?_indexesEnding_documentsFile bare)
  have notBare : documentsFile collection ≠ documentsEnding := by
    intro same
    have isEmpty : collection = "" := by
      apply (String.append_left_inj documentsEnding).1
      rw [String.empty_append]
      exact same
    exact ((isStem_iff collection).1 isStem).1 isEmpty
  unfold isDocumentsFile
  rw [ends, notIndexes, bne_iff_ne.2 notBare]
  rfl

theorem collectionRead_documentsFile {collection : String}
    (bare : endsWith collection documentsEnding = false) :
    collectionRead (documentsFile collection) = collection := by
  have long : ∃ bound, (documentsFile collection).toList.length = bound + 1 :=
    ⟨collection.toList.length + 4, by simp [documentsFile, documentsEnding]⟩
  obtain ⟨bound, isLong⟩ := long
  unfold collectionRead
  rw [isLong]
  exact withoutSuffixes_append bare bound

/-- No collection is read under a name that ends like a file of documents. -/
theorem not_endsWith_collectionRead (file : String) :
    endsWith (collectionRead file) documentsEnding = false :=
  not_endsWith_withoutSuffixes (by decide) _ file (Nat.le_refl _)

theorem isNamePart_collectionRead {file : String} (named : isName file = true) :
    isNamePart (collectionRead file) = true := by
  rcases (isNamePart_iff file).1 (isNamePart_of_isName named) with ⟨noSlash, noNul⟩
  refine (isNamePart_iff _).2 ⟨fun slash => ?_, fun nul => ?_⟩
  · exact noSlash (mem_of_mem_withoutSuffixes _ slash)
  · exact noNul (mem_of_mem_withoutSuffixes _ nul)

theorem isStem_collectionRead {file : String} (named : isName file = true)
    (occupied : collectionRead file ≠ "") : isStem (collectionRead file) = true :=
  (isStem_iff _).2 ⟨occupied, (isNamePart_iff _).1 (isNamePart_collectionRead named)⟩

theorem isDocumentsFile_indexesFile (collection : String) :
    isDocumentsFile (indexesFile collection) = false := by
  have ends : endsWith (indexesFile collection) indexesEnding = true :=
    (endsWith_iff ..).2 ⟨collection, rfl⟩
  unfold isDocumentsFile
  rw [ends, Bool.not_true, Bool.and_false]

/-- The files of a collection and their drafts. -/
def ownFiles (collection : String) : List String :=
  [documentsFile collection, documentsFile collection ++ draftEnding, indexesFile collection,
    indexesFile collection ++ draftEnding]

/-- No file of a plain collection belongs to another one. -/
theorem collectionOf?_of_mem_ownFiles {collection file : String}
    (plain : isPlain collection = true) (own : file ∈ ownFiles collection) :
    collectionOf? file = some collection := by
  have ofDocuments := collectionKept?_documentsFile plain
  have ofIndexes := collectionKept?_indexesFile collection
  simp only [ownFiles, List.mem_cons, List.not_mem_nil, or_false] at own
  rcases own with isFile | isFile | isFile | isFile <;> rw [isFile]
  · rw [collectionOf?_documentsFile, ofDocuments]
  · rw [collectionOf?_draft, ofDocuments]
  · rw [collectionOf?_indexesFile, ofIndexes]
  · rw [collectionOf?_draft, ofIndexes]

theorem documentsFile_inj {left right : String} :
    documentsFile left = documentsFile right ↔ left = right :=
  String.append_left_inj documentsEnding

/-- The file of fields of a collection is not the file of documents of a plain one. -/
theorem documentsFile_ne_indexesFile {collection : String}
    (plain : isPlain collection = true) (other : String) :
    documentsFile collection ≠ indexesFile other := by
  obtain ⟨-, -, bare⟩ := (isPlain_iff collection).1 plain
  intro same
  rw [indexesFile_eq_documentsFile, documentsFile_inj] at same
  rw [(endsWith_iff ..).2 ⟨other, same⟩] at bare
  cases bare

/-- No other collection writes to the documents of a plain one or to their draft, whatever it is
called. -/
theorem documentsFile_notMem_ownFiles {collection other : String}
    (plain : isPlain collection = true) (different : collection ≠ other) :
    documentsFile collection ∉ ownFiles other ∧
      documentsFile collection ++ draftEnding ∉ ownFiles other := by
  have notDocuments : documentsFile collection ≠ documentsFile other :=
    fun same => different (documentsFile_inj.1 same)
  have notIndexes := documentsFile_ne_indexesFile plain other
  unfold ownFiles
  simp only [List.mem_cons, List.not_mem_nil, or_false, not_or, String.append_left_inj]
  exact ⟨⟨notDocuments, documentsFile_ne_draft _ _, notIndexes, documentsFile_ne_draft _ _⟩,
    (documentsFile_ne_draft _ _).symm, notDocuments, (indexesFile_ne_draft _ _).symm, notIndexes⟩

/-! ## Files are names -/

/-- Part of a name and an ending are a name, whatever the dots of the part would lead to. -/
theorem isName_append {part ending : String} (isPart : isNamePart part = true)
    (long : 2 < ending.toList.length) (slashless : '/' ∉ ending.toList)
    (plain : '\x00' ∉ ending.toList) : isName (part ++ ending) = true := by
  obtain ⟨partSlashless, partPlain⟩ := (isNamePart_iff part).1 isPart
  apply isName_of_length
  · rw [String.toList_append, List.length_append]
    omega
  · rw [String.toList_append, List.mem_append, not_or]
    exact ⟨partSlashless, slashless⟩
  · rw [String.toList_append, List.mem_append, not_or]
    exact ⟨partPlain, plain⟩

theorem isName_documentsFile {collection : String} (isPart : isNamePart collection = true) :
    isName (documentsFile collection) = true :=
  isName_append isPart (by decide) (by decide) (by decide)

theorem isName_indexesFile {collection : String} (isPart : isNamePart collection = true) :
    isName (indexesFile collection) = true :=
  isName_append isPart (by decide) (by decide) (by decide)

theorem isName_draft {file : String} (named : isName file = true) :
    isName (file ++ draftEnding) = true :=
  isName_append (isNamePart_of_isName named) (by decide) (by decide) (by decide)

end DocStore.DataDirectory
