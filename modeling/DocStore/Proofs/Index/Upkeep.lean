import DocStore.Index.Basic
import DocStore.Proofs.SortedMap.Reading

/-!
Contract: what the upkeep of an index preserves.

An index answers for a class of documents when it lists exactly their entries
and keeps no index key without document keys. Building establishes this for the
documents of a list, listing a document adds it to the class, and taking it off
removes it, provided no other document of the class has its entry. An index that
answers for a class is determined by its field and the class, so an index that
was kept up to date is the one that building anew would give.

Owns: `Index.AnswersFor` and the law of each upkeep operation.
-/

namespace DocStore

namespace Index

/-- An index lists exactly the documents with a property, and nothing is left empty in it. -/
structure AnswersFor (index : Index) (present : Document → Prop) : Prop where
  occupied : ∀ indexKey keys, index.entries.find? indexKey = some keys → keys.isEmpty = false
  listed : ∀ indexKey key, (index.exactly indexKey).contains key = true ↔
    ∃ document, present document ∧ entry? index.field document = some (indexKey, key)

/-! ## One operation -/

theorem entry_eq_some_iff {field : String} {document : Document} {indexKey : IndexKey}
    {key : String} :
    entry? field document = some (indexKey, key) ↔
      document.key? = some key ∧
        ∃ value, document.get? field = some value ∧ IndexKey.ofValue? value = some indexKey := by
  unfold entry?
  simp only [Option.bind_eq_bind, Option.bind_eq_some_iff, Option.some.injEq, Prod.mk.injEq]
  constructor
  · rintro ⟨_, isKey, value, found, _, keyed, rfl, rfl⟩
    exact ⟨isKey, value, found, keyed⟩
  · rintro ⟨isKey, value, found, keyed⟩
    exact ⟨key, isKey, value, found, indexKey, keyed, rfl, rfl⟩

@[simp] theorem field_insert (index : Index) (document : Document) :
    (index.insert document).field = index.field := by
  unfold insert
  split <;> rfl

@[simp] theorem field_remove (index : Index) (document : Document) :
    (index.remove document).field = index.field := by
  unfold remove
  split
  · split
    · dsimp only
      split <;> rfl
    · rfl
  · rfl

theorem contains_exactly_insert (index : Index) (document : Document) (indexKey : IndexKey)
    (key : String) :
    ((index.insert document).exactly indexKey).contains key = true ↔
      entry? index.field document = some (indexKey, key) ∨
        (index.exactly indexKey).contains key = true := by
  unfold insert
  cases found : entry? index.field document with
  | none => simp
  | some entry =>
      obtain ⟨listedUnder, listedKey⟩ := entry
      simp only [exactly, SortedMap.find?_insert, Option.some.injEq, Prod.mk.injEq]
      by_cases same : indexKey = listedUnder
      · subst same
        rw [if_pos rfl, Option.getD_some, KeySet.contains_insert, Bool.or_eq_true,
          decide_eq_true_iff, eq_comm (a := key)]
        simp only [true_and]
      · simp [same, Ne.symm same]

theorem occupied_insert {index : Index} (document : Document)
    (occupied : ∀ indexKey keys, index.entries.find? indexKey = some keys →
      keys.isEmpty = false) :
    ∀ indexKey keys, (index.insert document).entries.find? indexKey = some keys →
      keys.isEmpty = false := by
  intro indexKey keys atKey
  unfold insert at atKey
  cases found : entry? index.field document with
  | none =>
      rw [found] at atKey
      exact occupied indexKey keys atKey
  | some entry =>
      obtain ⟨listedUnder, listedKey⟩ := entry
      rw [found] at atKey
      simp only [SortedMap.find?_insert] at atKey
      split at atKey
      · rw [← Option.some.inj atKey, SortedMap.isEmpty_eq_false_iff]
        exact ⟨listedKey, by simp⟩
      · exact occupied indexKey keys atKey

theorem contains_exactly_remove (index : Index) (document : Document) (indexKey : IndexKey)
    (key : String) :
    ((index.remove document).exactly indexKey).contains key = true ↔
      entry? index.field document ≠ some (indexKey, key) ∧
        (index.exactly indexKey).contains key = true := by
  unfold remove
  cases found : entry? index.field document with
  | none => simp
  | some entry =>
      obtain ⟨listedUnder, listedKey⟩ := entry
      simp only [ne_eq, Option.some.injEq, Prod.mk.injEq]
      cases atEntry : index.entries.find? listedUnder with
      | none =>
          -- Nothing is listed under the index key of the document, so nothing changes.
          simp only [exactly]
          constructor
          · intro present
            refine ⟨?_, present⟩
            rintro ⟨sameIndexKey, sameKey⟩
            rw [← sameIndexKey, atEntry] at present
            exact absurd present (by simp)
          · exact fun both => both.2
      | some keys =>
          have erased := KeySet.contains_erase keys listedKey key
          by_cases same : indexKey = listedUnder
          · subst same
            simp only [exactly, atEntry, Option.getD_some, true_and]
            split
            next emptied =>
              -- The last document key was erased, and the index key with it.
              simp only [SortedMap.find?_erase_self, Option.getD_none, KeySet.contains_empty]
              have nothing : SortedMap.contains (SortedMap.erase keys listedKey) key = false := by
                cases inside : SortedMap.contains (SortedMap.erase keys listedKey) key with
                | false => rfl
                | true =>
                    have occupied := (SortedMap.isEmpty_eq_false_iff _).2 ⟨key, inside⟩
                    rw [emptied] at occupied
                    exact absurd occupied (by decide)
              rw [nothing] at erased
              by_cases sameKey : key = listedKey
              · simp [sameKey]
              · have absent : SortedMap.contains keys key = false := by
                  simpa [sameKey] using erased
                simp [absent]
            next =>
              rw [SortedMap.find?_insert_self, Option.getD_some, erased, Bool.and_eq_true,
                decide_eq_true_iff, ne_comm]
          · have different : listedUnder ≠ indexKey := fun equal => same equal.symm
            simp only [exactly]
            split
            · simp [SortedMap.find?_erase_of_ne _ same, different]
            · simp [SortedMap.find?_insert_of_ne _ same, different]

theorem occupied_remove {index : Index} (document : Document)
    (occupied : ∀ indexKey keys, index.entries.find? indexKey = some keys →
      keys.isEmpty = false) :
    ∀ indexKey keys, (index.remove document).entries.find? indexKey = some keys →
      keys.isEmpty = false := by
  intro indexKey keys atKey
  unfold remove at atKey
  cases found : entry? index.field document with
  | none =>
      rw [found] at atKey
      exact occupied indexKey keys atKey
  | some entry =>
      obtain ⟨listedUnder, listedKey⟩ := entry
      rw [found] at atKey
      dsimp only at atKey
      split at atKey
      · split at atKey
        · rw [SortedMap.find?_erase] at atKey
          split at atKey
          · exact absurd atKey (by simp)
          · exact occupied indexKey keys atKey
        next notEmpty =>
          rw [SortedMap.find?_insert] at atKey
          split at atKey
          · rw [← Option.some.inj atKey]
            exact Bool.eq_false_iff.2 notEmpty
          · exact occupied indexKey keys atKey
      · exact occupied indexKey keys atKey

/-! ## Classes of documents -/

theorem answersFor_empty (field : String) : (empty field).AnswersFor fun _ => False where
  occupied := by
    intro indexKey keys atKey
    exact absurd atKey (by simp [empty])
  listed := by
    intro indexKey key
    simp [empty, exactly]

theorem AnswersFor.insert {index : Index} {present : Document → Prop}
    (answers : index.AnswersFor present) (document : Document) :
    (index.insert document).AnswersFor fun other => other = document ∨ present other where
  occupied := occupied_insert document answers.occupied
  listed := by
    intro indexKey key
    rw [contains_exactly_insert, answers.listed, field_insert]
    constructor
    · rintro (isEntry | ⟨other, isPresent, isEntry⟩)
      · exact ⟨document, .inl rfl, isEntry⟩
      · exact ⟨other, .inr isPresent, isEntry⟩
    · rintro ⟨other, rfl | isPresent, isEntry⟩
      · exact .inl isEntry
      · exact .inr ⟨other, isPresent, isEntry⟩

/-- Taking a document off the lists. No other document may share its entry; documents with keys
of their own never do. -/
theorem AnswersFor.remove {index : Index} {present : Document → Prop}
    (answers : index.AnswersFor present) (document : Document)
    (alone : ∀ other, present other → other.key? = document.key? → other = document) :
    (index.remove document).AnswersFor fun other => present other ∧ other ≠ document where
  occupied := occupied_remove document answers.occupied
  listed := by
    intro indexKey key
    rw [contains_exactly_remove, answers.listed, field_remove]
    constructor
    · rintro ⟨notEntry, other, isPresent, isEntry⟩
      refine ⟨other, ⟨isPresent, ?_⟩, isEntry⟩
      intro same
      exact notEntry (same ▸ isEntry)
    · rintro ⟨other, ⟨isPresent, different⟩, isEntry⟩
      refine ⟨?_, other, isPresent, isEntry⟩
      intro sameEntry
      exact different (alone other isPresent (by
        rw [(entry_eq_some_iff.1 isEntry).1, (entry_eq_some_iff.1 sameEntry).1]))

/-! ## Building -/

theorem field_foldl_insert (documents : List Document) (index : Index) :
    (documents.foldl insert index).field = index.field := by
  induction documents generalizing index with
  | nil => rfl
  | cons document rest inductionHypothesis =>
      rw [List.foldl_cons, inductionHypothesis, field_insert]

@[simp] theorem field_build (field : String) (documents : List Document) :
    (build field documents).field = field :=
  field_foldl_insert documents (empty field)

theorem AnswersFor.congr {index : Index} {present other : Document → Prop}
    (answers : index.AnswersFor present) (same : ∀ document, present document ↔ other document) :
    index.AnswersFor other where
  occupied := answers.occupied
  listed := by
    intro indexKey key
    rw [answers.listed]
    exact exists_congr fun document => and_congr_left fun _ => same document

theorem AnswersFor.foldl_insert {index : Index} {present : Document → Prop}
    (answers : index.AnswersFor present) (documents : List Document) :
    (documents.foldl Index.insert index).AnswersFor fun other =>
      other ∈ documents ∨ present other := by
  induction documents generalizing index present with
  | nil => exact answers.congr fun document => by simp
  | cons document rest inductionHypothesis =>
      rw [List.foldl_cons]
      apply (inductionHypothesis (answers.insert document)).congr
      intro other
      rw [List.mem_cons, or_left_comm, or_assoc]

theorem answersFor_build (field : String) (documents : List Document) :
    (build field documents).AnswersFor fun document => document ∈ documents :=
  ((answersFor_empty field).foldl_insert documents).congr fun document => by simp

/-! ## Uniqueness -/

/-- Under an index key that lists nothing stands no key set at all. -/
theorem AnswersFor.find?_eq {index : Index} {present : Document → Prop}
    (answers : index.AnswersFor present) (indexKey : IndexKey) :
    index.entries.find? indexKey =
      if (index.exactly indexKey).isEmpty then none else some (index.exactly indexKey) := by
  unfold exactly
  cases atKey : index.entries.find? indexKey with
  | none => rfl
  | some keys =>
      have occupied := answers.occupied indexKey keys atKey
      rw [Option.getD_some, if_neg (by simp [occupied])]

/-- An index that answers for a class of documents is determined by its field. -/
theorem AnswersFor.unique {left right : Index} {present : Document → Prop}
    (sameField : left.field = right.field) (leftAnswers : left.AnswersFor present)
    (rightAnswers : right.AnswersFor present) : left = right := by
  have sameKeys : ∀ indexKey, left.exactly indexKey = right.exactly indexKey := by
    intro indexKey
    apply KeySet.ext
    intro key
    rw [Bool.eq_iff_iff, leftAnswers.listed, rightAnswers.listed, sameField]
  have sameEntries : left.entries = right.entries := by
    apply SortedMap.ext
    intro indexKey
    rw [leftAnswers.find?_eq, rightAnswers.find?_eq, sameKeys]
  cases left
  cases right
  simp only at sameField sameEntries
  rw [sameField, sameEntries]

end Index

end DocStore
