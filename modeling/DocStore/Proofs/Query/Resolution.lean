import DocStore.Query.Resolution
import DocStore.Proofs.Connective
import DocStore.Proofs.Index.Lookup
import DocStore.Proofs.Store.Soundness

/-!
Contract: a resolved predicate means what the predicate means.

Document by document and as set algebra, a resolved predicate says the same of
every document that is stored under its key, whatever keys its leaves hold. On a
sound collection every index answers a leaf with the keys of the documents that
the leaf accepts; resolving keeps the predicate, so both evaluations come to the
verdict of the predicate there. Set algebra over no documents at all does so too
when it needs none.

Owns: `Resolved.predicate`, `Resolved.Answers` and the laws of both evaluations.
-/

namespace DocStore

namespace Resolved

mutual

/-- The predicate that was resolved. -/
def predicate : Resolved → Predicate
  | indexed leaf _ => .test leaf
  | scan leaf => .test leaf
  | join connective operands => .join connective (predicates operands)

def predicates : List Resolved → List Predicate
  | [] => []
  | operand :: rest => operand.predicate :: predicates rest

end

/-- A key set holds the keys of the documents that a leaf accepts. -/
def KeysOf (documents : Snapshot) (leaf : FieldTest) (keys : KeySet) : Prop :=
  ∀ key, keys.contains key = true ↔
    ∃ document, documents.find? key = some document ∧ leaf.accepts document = true

mutual

/-- Every looked-up leaf holds the keys of the documents that it accepts. -/
def Answers (documents : Snapshot) : Resolved → Prop
  | indexed leaf keys => KeysOf documents leaf keys
  | scan _ => True
  | join _ operands => EachAnswers documents operands

def EachAnswers (documents : Snapshot) : List Resolved → Prop
  | [] => True
  | operand :: rest => operand.Answers documents ∧ EachAnswers documents rest

end

/-! ## Resolving -/

section

variable {store : Store} {database collection : String} {content : Collection}

theorem keysOf_lookup (sound : content.Sound) {leaf : FieldTest} {index : Index}
    (atField : content.indexes.find? leaf.field = some index) :
    KeysOf content.documents leaf (index.lookup leaf.comparison leaf.literal) := by
  intro key
  rw [(sound.answersFor atField).contains_lookup, sound.field_eq atField]
  constructor
  · rintro ⟨document, member, isKey, isMet⟩
    obtain ⟨otherKey, atKey⟩ := (SortedMap.mem_values_iff ..).1 member
    have sameKey := sound.keyed otherKey document atKey
    rw [isKey, Option.some.injEq] at sameKey
    exact ⟨document, sameKey ▸ atKey, isMet⟩
  · rintro ⟨document, atKey, isMet⟩
    exact ⟨document, (SortedMap.mem_values_iff ..).2 ⟨key, atKey⟩,
      sound.keyed key document atKey, isMet⟩

theorem ofLeaf_answers (found : store.collection database collection = .ok content)
    (sound : content.Sound) (settings : Settings) (leaf : FieldTest) :
    ∃ resolved, ofLeaf store.source settings database collection leaf = .ok resolved ∧
      resolved.predicate = .test leaf ∧ resolved.Answers content.documents := by
  have answer : store.source.indexLookup database collection leaf.field leaf.comparison
      leaf.literal = .ok ((content.indexes.find? leaf.field).map fun index =>
        index.lookup leaf.comparison leaf.literal) := by
    simp only [Store.source, found]
    rfl
  unfold ofLeaf
  rw [answer]
  by_cases usesIndexes : settings.usesIndexes = true
  · rw [if_pos usesIndexes]
    cases atField : content.indexes.find? leaf.field with
    | none => exact ⟨scan leaf, rfl, rfl, trivial⟩
    | some index => exact ⟨indexed leaf _, rfl, rfl, keysOf_lookup sound atField⟩
  · rw [if_neg usesIndexes]
    exact ⟨scan leaf, rfl, rfl, trivial⟩

mutual

/-- Resolving over a collection that exists succeeds and keeps the predicate. -/
theorem ofPredicate_answers (found : store.collection database collection = .ok content)
    (sound : content.Sound) (settings : Settings) :
    ∀ wanted : Predicate,
      ∃ resolved, ofPredicate store.source settings database collection wanted = .ok resolved ∧
        resolved.predicate = wanted ∧ resolved.Answers content.documents
  | .test leaf => ofLeaf_answers found sound settings leaf
  | .join connective operands => by
      obtain ⟨resolved, isResolved, kept, answers⟩ :=
        ofPredicates_answers found sound settings operands
      refine ⟨join connective resolved, ?_, ?_, answers⟩
      · rw [ofPredicate, isResolved]
      · rw [predicate, kept]

theorem ofPredicates_answers (found : store.collection database collection = .ok content)
    (sound : content.Sound) (settings : Settings) :
    ∀ wanted : List Predicate,
      ∃ resolved, ofPredicates store.source settings database collection wanted = .ok resolved ∧
        predicates resolved = wanted ∧ EachAnswers content.documents resolved
  | [] => ⟨[], rfl, rfl, trivial⟩
  | operand :: rest => by
      obtain ⟨first, isFirst, firstKept, firstAnswers⟩ :=
        ofPredicate_answers found sound settings operand
      obtain ⟨others, areOthers, othersKept, othersAnswer⟩ :=
        ofPredicates_answers found sound settings rest
      refine ⟨first :: others, ?_, ?_, firstAnswers, othersAnswer⟩
      · rw [ofPredicates, isFirst, areOthers]
      · rw [predicates, firstKept, othersKept]

end

end

/-! ## Evaluating -/

section

variable {documents : Snapshot} {key : String} {document : Document}

mutual

/-- Document by document, a stored document is let through when the predicate accepts it. -/
theorem accepts_eq (atKey : documents.find? key = some document)
    (isKey : document.key? = some key) :
    ∀ resolved : Resolved, resolved.Answers documents →
      resolved.accepts document = resolved.predicate.accepts document
  | indexed leaf keys, answers => by
      rw [accepts, isKey, predicate, Predicate.accepts, Bool.eq_iff_iff, answers key]
      constructor
      · rintro ⟨other, atOther, isMet⟩
        rw [atKey, Option.some.injEq] at atOther
        exact atOther ▸ isMet
      · intro isMet
        exact ⟨document, atKey, isMet⟩
  | scan leaf, _ => rfl
  | join connective operands, answers => by
      rw [accepts, predicate, Predicate.accepts, acceptsEach_eq atKey isKey operands answers]

theorem acceptsEach_eq (atKey : documents.find? key = some document)
    (isKey : document.key? = some key) :
    ∀ resolved : List Resolved, EachAnswers documents resolved →
      acceptsEach document resolved = Predicate.verdicts document (predicates resolved)
  | [], _ => rfl
  | operand :: rest, answers => by
      rw [acceptsEach, predicates, Predicate.verdicts,
        accepts_eq atKey isKey operand answers.1, acceptsEach_eq atKey isKey rest answers.2]

end

theorem contains_keySet (atKey : documents.find? key = some document) :
    documents.keySet.contains key = true := by
  simp [Snapshot.keySet, SortedMap.contains, atKey]

theorem contains_selected_scan (atKey : documents.find? key = some document)
    (everything : KeySet) (leaf : FieldTest) :
    ((scan leaf).selected documents everything).contains key = leaf.accepts document := by
  simp only [selected, SortedMap.contains, SortedMap.find?_mapValues, SortedMap.find?_filter,
    atKey]
  cases isMet : leaf.accepts document <;> simp [Option.filter, isMet]

mutual

/-- Whatever keys the looked-up leaves hold, both evaluations say the same of a document that is
stored under its key. -/
theorem contains_selected_eq_accepts (atKey : documents.find? key = some document)
    (isKey : document.key? = some key) :
    ∀ resolved : Resolved,
      (resolved.selected documents documents.keySet).contains key = resolved.accepts document
  | indexed leaf keys => by rw [selected, accepts, isKey]
  | scan leaf => contains_selected_scan atKey _ leaf
  | join connective operands => by
      rw [selected, Connective.contains_joinSets connective _ fun _ => contains_keySet atKey,
        contains_selectedByEach_eq_acceptsEach atKey isKey operands, accepts]

theorem contains_selectedByEach_eq_acceptsEach (atKey : documents.find? key = some document)
    (isKey : document.key? = some key) :
    ∀ resolved : List Resolved,
      ((selectedByEach documents documents.keySet resolved).map fun set => set.contains key) =
        acceptsEach document resolved
  | [] => rfl
  | operand :: rest => by
      rw [selectedByEach, List.map_cons, acceptsEach,
        contains_selected_eq_accepts atKey isKey operand,
        contains_selectedByEach_eq_acceptsEach atKey isKey rest]

end

/-- As set algebra over the collection, a key is selected when the predicate accepts the
document under it. -/
theorem contains_selected (atKey : documents.find? key = some document)
    (isKey : document.key? = some key) (resolved : Resolved)
    (answers : resolved.Answers documents) :
    (resolved.selected documents documents.keySet).contains key =
      resolved.predicate.accepts document := by
  rw [contains_selected_eq_accepts atKey isKey, accepts_eq atKey isKey resolved answers]

mutual

/-- Where no documents are needed, none have to be given. -/
theorem selected_eq_of_no_need (snapshot : Snapshot) (everything : KeySet) :
    ∀ resolved : Resolved, resolved.needsDocuments = false →
      resolved.selected SortedMap.empty SortedMap.empty = resolved.selected snapshot everything
  | indexed leaf keys, _ => rfl
  | scan leaf, noNeed => by cases noNeed
  | join .nor operands, noNeed => by cases noNeed
  | join .nand operands, noNeed => by cases noNeed
  | join .and operands, noNeed => by
      rw [selected, selected, selectedByEach_eq_of_no_need snapshot everything operands noNeed]
      rfl
  | join .or operands, noNeed => by
      rw [selected, selected, selectedByEach_eq_of_no_need snapshot everything operands noNeed]
      rfl
  | join .xor operands, noNeed => by
      rw [selected, selected, selectedByEach_eq_of_no_need snapshot everything operands noNeed]
      rfl

theorem selectedByEach_eq_of_no_need (snapshot : Snapshot) (everything : KeySet) :
    ∀ resolved : List Resolved, anyNeedsDocuments resolved = false →
      selectedByEach SortedMap.empty SortedMap.empty resolved =
        selectedByEach snapshot everything resolved
  | [], _ => rfl
  | operand :: rest, noNeed => by
      rw [anyNeedsDocuments, Bool.or_eq_false_iff] at noNeed
      rw [selectedByEach, selectedByEach,
        selected_eq_of_no_need snapshot everything operand noNeed.1,
        selectedByEach_eq_of_no_need snapshot everything rest noNeed.2]

end

end

end Resolved

end DocStore
