import DocStore.DataDirectory.Loading
import DocStore.DataDirectory.Saving
import DocStore.Proofs.Store.Normalised
import DocStore.Proofs.Value.Depth

/-!
Contract: the texts of a collection's files and what is read from them.

The text of the documents is read back as the documents normalised, none passed
over; the text of the indexed fields as those fields in key order. A collection
and its normal form have the same texts.

Owns: reading back of `documentsText` and `indexesText`.
-/

namespace DocStore.DataDirectory

/-! ## Documents -/

theorem addEach_toJson (entries : List (String × Document)) :
    ∀ (documents : SortedMap String Document) (count : Nat),
      (∀ entry ∈ entries, entry.2.key? = some entry.1 ∧ Entries.Sorted entry.2.fields) →
      (entries.Pairwise fun left right => compare left.1 right.1 = .lt) →
      (∀ entry ∈ entries, documents.find? entry.1 = none) →
      addEach ⟨documents, SortedMap.empty, count⟩ 0 (entries.map fun entry => entry.2.toJson) =
        .ok (⟨entries.foldl (fun collected entry => collected.insert entry.1 entry.2.normalised)
          documents, SortedMap.empty, count + entries.length⟩, 0) := by
  induction entries with
  | nil => exact fun documents count _ _ _ => rfl
  | cons first rest inductionHypothesis =>
      intro documents count keyed ordered absent
      obtain ⟨key, document⟩ := first
      obtain ⟨isKey, sorted⟩ := keyed (key, document) (List.mem_cons_self ..)
      have normalisedKey := Document.key?_normalised isKey
      have stored : document.normalised.withKey key = document.normalised :=
        Document.withKey_of_key? (Document.sorted_normalised sorted) normalisedKey
      have added : Collection.add ⟨documents, SortedMap.empty, count⟩ key document.normalised =
          .ok (key, ⟨documents.insert key document.normalised, SortedMap.empty, count + 1⟩) := by
        rw [Collection.add_eq_ok_iff]
        refine ⟨Collection.keyFor_of_key? normalisedKey key, absent _ (List.mem_cons_self ..), ?_⟩
        rw [stored]
        rfl
      rw [List.map_cons, addEach, Document.ofJson_toJson]
      simp only [bind, Except.bind, normalisedKey, added]
      obtain ⟨before, restOrdered⟩ := List.pairwise_cons.1 ordered
      rw [inductionHypothesis (documents.insert key document.normalised) (count + 1)
        (fun entry member => keyed entry (List.mem_cons_of_mem _ member)) restOrdered]
      · rw [List.foldl_cons, List.length_cons, Nat.add_assoc, Nat.add_comm 1]
      · intro entry member
        have different : entry.1 ≠ key := by
          intro same
          have impossible := before entry member
          rw [same, Std.ReflOrd.compare_self] at impossible
          cases impossible
        rw [SortedMap.find?_insert_of_ne _ different]
        exact absent entry (List.mem_cons_of_mem _ member)

/-- Inserting the normalised documents one by one in key order normalises the whole map. -/
theorem foldl_insert_normalised (documents : SortedMap String Document) :
    documents.toList.foldl (fun collected entry => collected.insert entry.1 entry.2.normalised)
      SortedMap.empty = documents.mapValues Document.normalised := by
  have entriesOf : ∀ (entries : List (String × Document)) (start : SortedMap String Document),
      (entries.foldl (fun collected entry => collected.insert entry.1 entry.2.normalised)
        start).entries =
      (entries.map fun entry => (entry.1, entry.2.normalised)).foldl
        (fun collected entry => Entries.insert entry.1 entry.2 collected) start.entries := by
    intro entries
    induction entries with
    | nil => exact fun start => rfl
    | cons first rest inductionHypothesis => exact fun start => inductionHypothesis _
  apply SortedMap.eq_of_entries
  rw [entriesOf]
  exact Entries.ofList_of_sorted (documents.mapValues Document.normalised).sorted

theorem itemsFaithful_of_forall {items : List Json}
    (faithful : ∀ item ∈ items, item.isFaithful = true) : Json.itemsFaithful items = true := by
  induction items with
  | nil => rfl
  | cons item rest inductionHypothesis =>
      rw [Json.itemsFaithful, faithful item (List.mem_cons_self ..), inductionHypothesis
        fun other member => faithful other (List.mem_cons_of_mem _ member)]
      rfl

/-- The most levels that a stored document may be deep to be read again. -/
def depthLimit : Nat := 126

/-- Whether every document of a collection is nested within the limit for stored documents. -/
def Shallow (content : Collection) : Prop :=
  ∀ key document, content.documents.find? key = some document →
    document.toJson.depth ≤ depthLimit

/-- Documents that stand under their keys, in field order and not nested too deeply. -/
structure Readable (content : Collection) : Prop where
  sound : content.Sound
  ordered : content.Ordered
  shallow : Shallow content

/-- The data of a collection's documents, as it is written. -/
def documentsData (content : Collection) : Json :=
  .array (content.documents.values.map Document.toJson)

theorem isFaithful_documentsData {content : Collection} (ordered : content.Ordered) :
    (documentsData content).isFaithful = true := by
  rw [documentsData, Json.isFaithful]
  apply itemsFaithful_of_forall
  intro item member
  rcases List.mem_map.1 member with ⟨document, isValue, isItem⟩
  rcases (content.documents.mem_values_iff document).1 isValue with ⟨key, found⟩
  rw [← isItem]
  exact Value.isFaithful_toJson document.toValue (ordered key document found)

/-- The list around the documents takes up one level. -/
theorem depth_documentsData_le_iff (content : Collection) :
    (documentsData content).depth ≤ Json.nestingLimit ↔ Shallow content := by
  rw [documentsData, Json.depth]
  show _ + 1 ≤ depthLimit + 1 ↔ _
  rw [Nat.add_le_add_iff_right, Json.itemsDepth_le_iff, List.forall_mem_map]
  constructor
  · intro shallow key document found
    exact shallow document ((content.documents.mem_values_iff document).2 ⟨key, found⟩)
  · intro shallow document isValue
    rcases (content.documents.mem_values_iff document).1 isValue with ⟨key, found⟩
    exact shallow key document found

section

variable [NumeralReader] [Json.ReadsBack]

theorem documentsOfText_documentsText {content : Collection} (readable : Readable content) :
    documentsOfText (documentsText content) =
      .ok (⟨content.documents.mapValues Document.normalised, SortedMap.empty,
        content.documents.size⟩, 0) := by
  have parsed := Json.parse?_pretty (isFaithful_documentsData readable.ordered)
    ((depth_documentsData_le_iff content).2 readable.shallow)
  have items : content.documents.values.map Document.toJson =
      content.documents.toList.map fun entry => entry.2.toJson := by
    unfold SortedMap.values SortedMap.toList
    rw [List.map_map]
    rfl
  have added := addEach_toJson content.documents.toList SortedMap.empty 0 (by
    intro entry member
    have found := (content.documents.mem_toList_iff entry.1 entry.2).1 member
    exact ⟨readable.sound.keyed entry.1 entry.2 found,
      OrderedDocument.sorted_fields ⟨entry.2, readable.ordered entry.1 entry.2 found⟩⟩)
    content.documents.sorted (fun entry member => rfl)
  unfold documentsData at parsed
  unfold documentsOfText documentsText
  rw [parsed]
  simp only [items]
  rw [foldl_insert_normalised, Nat.zero_add] at added
  exact added

/-- Documents that can be read back from their text are shallow. -/
theorem shallow_of_documentsText {content : Collection} {read : Collection × Nat}
    (ordered : content.Ordered) (isRead : documentsOfText (documentsText content) = .ok read) :
    Shallow content := by
  rw [← depth_documentsData_le_iff]
  apply Nat.le_of_not_lt
  intro deep
  have refused := Json.parse?_pretty_of_deep (isFaithful_documentsData ordered) deep
  unfold documentsData at refused
  unfold documentsOfText documentsText at isRead
  rw [refused] at isRead
  cases isRead

/-! ## Indexed fields -/

theorem fieldsOfText_indexesText (content : Collection) :
    fieldsOfText (indexesText content) = .ok content.indexes.keys := by
  have faithful : (Json.array (content.indexes.keys.map Json.string)).isFaithful = true := by
    rw [Json.isFaithful]
    refine itemsFaithful_of_forall fun item member => ?_
    obtain ⟨field, -, rfl⟩ := List.mem_map.1 member
    rfl
  have deep : (Json.array (content.indexes.keys.map Json.string)).depth ≤ Json.nestingLimit := by
    have items : Json.itemsDepth (content.indexes.keys.map Json.string) ≤ 0 := by
      refine (Json.itemsDepth_le_iff ..).2 fun item member => ?_
      obtain ⟨field, -, rfl⟩ := List.mem_map.1 member
      exact Nat.le_refl 0
    rw [Json.depth, Nat.le_zero.1 items]
    decide
  have names : (content.indexes.keys.map Json.string).mapM Json.string? =
      some content.indexes.keys := by
    induction content.indexes.keys with
    | nil => rfl
    | cons field rest inductionHypothesis =>
        rw [List.map_cons, List.mapM_cons, inductionHypothesis]
        rfl
  unfold fieldsOfText indexesText
  rw [Json.parse?_pretty faithful deep]
  simp only [names]

end

/-! ## Texts of normal forms -/

theorem documentsText_normalised (content : Collection) :
    documentsText content.normalised = documentsText content := by
  have same : content.normalised.documents.values.map Document.toJson =
      content.documents.values.map Document.toJson := by
    rw [Collection.documents_normalised, SortedMap.values_mapValues, List.map_map]
    exact List.map_congr_left fun document _ => Document.toJson_normalised document
  unfold documentsText
  rw [same]

theorem indexesText_normalised (content : Collection) :
    indexesText content.normalised = indexesText content := by
  unfold indexesText
  rw [Collection.fields_normalised]

theorem isEmpty_normalised (content : Collection) :
    content.normalised.indexes.isEmpty = content.indexes.isEmpty := by
  rw [← SortedMap.isEmpty_keys, ← SortedMap.isEmpty_keys, Collection.fields_normalised]

end DocStore.DataDirectory
