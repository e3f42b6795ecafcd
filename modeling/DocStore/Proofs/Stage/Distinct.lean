import Mathlib.Data.List.FinRange
import DocStore.Proofs.Value.Lens
import DocStore.Proofs.Value.Canonical
import DocStore.Stage.Distinct

/-!
Contract: distinct documents are the first occurrences among the projected ones.

A document is projected to its fields other than the key, or to one field whose
path it holds as objects inside each other, also where the path led through a
list. What is read at that path of a projected document is what was read of the
document itself, so projecting again changes nothing. The run remembers the keys of
what it kept; a document whose key is among them has an identical one before it,
and a document left out leaves its key behind in the one that was kept.

Owns: `Document.IsIdentical`, `Projects`, `ListsFirst` and the law of `Stage.distinct`.
-/

namespace DocStore

/-- Two documents have identical fields. -/
def Document.IsIdentical (left right : Document) : Prop := left.toValue.IsIdentical right.toValue

theorem Document.isIdentical_iff (left right : Document) :
    left.IsIdentical right ↔ left.canonicalKey = right.canonicalKey :=
  Value.isIdentical_iff left.toValue right.toValue

namespace Stage

/-! ## Projection -/

/-- What is compared of a document. -/
inductive Projects : Option String → Document → Document → Prop
  /-- Without a field, everything but the key. -/
  | whole (document : Document) :
      Projects none document
        ⟨document.fields.filter fun field => field.1 ≠ Document.keyField⟩
  /-- With a field that the document holds, its value at the path and nothing else. -/
  | single {path : String} {document projected : Document} {value : Value}
      (holds : document.get? path = some value)
      (alone : projected.toValue = value.wrapped (Path.segments path)) :
      Projects (some path) document projected

theorem withoutKey_eq (document : Document) :
    document.withoutKey =
      ⟨document.fields.filter fun field => field.1 ≠ Document.keyField⟩ := by
  unfold Document.withoutKey Entries.erase
  congr 2
  funext field
  rw [Bool.eq_iff_iff, bne_iff_ne, decide_eq_true_iff, ne_eq, ne_eq,
    Std.LawfulEqOrd.compare_eq_iff_eq]
  exact not_congr eq_comm

theorem project?_eq_some_iff (field : Option String) (document projected : Document) :
    project? field document = some projected ↔ Projects field document projected := by
  cases field with
  | none =>
      rw [project?, withoutKey_eq, Option.some_inj]
      constructor
      · rintro rfl
        exact .whole document
      · rintro ⟨⟩
        rfl
  | some path =>
      rw [project?, Option.map_eq_some_iff]
      constructor
      · rintro ⟨value, holds, rfl⟩
        exact .single holds (Document.toValue_set_empty path value)
      · rintro (_ | ⟨holds, alone⟩)
        refine ⟨_, holds, Document.toValue_inj ?_⟩
        rw [Document.toValue_set_empty, alone]

/-- A projected document is projected to itself. -/
theorem project?_projected {field : Option String} {document projected : Document}
    (projects : project? field document = some projected) :
    project? field projected = some projected := by
  cases field with
  | none =>
      cases projects
      rw [project?, Document.withoutKey, Document.withoutKey, Entries.erase_of_find?_eq_none]
      exact Entries.find?_erase_self _ _
  | some path =>
      rw [project?, Option.map_eq_some_iff] at projects
      obtain ⟨value, holds, rfl⟩ := projects
      have readBack : (Document.empty.set path value).get? path = some value :=
        Document.get?_set_self value (Fields.isReadable_of_get? holds)
          (Value.not_obstructs_emptyObject _)
      rw [project?, readBack, Option.map_some]

/-! ## First occurrences -/

/-- No document at an earlier place is identical. -/
def IsFirst (documents : List Document) (place : Fin documents.length) : Prop :=
  ∀ earlier < place, ¬(documents.get earlier).IsIdentical (documents.get place)

theorem isFirst_zero (document : Document) (rest : List Document) :
    IsFirst (document :: rest) (0 : Fin (rest.length + 1)) :=
  fun earlier before => absurd before (Fin.not_lt_zero earlier)

theorem isFirst_succ_iff (document : Document) {rest : List Document} (place : Fin rest.length) :
    IsFirst (document :: rest) place.succ ↔
      ¬document.IsIdentical (rest.get place) ∧ IsFirst rest place := by
  constructor
  · intro isFirst
    exact ⟨isFirst 0 (Fin.succ_pos place),
      fun earlier before => isFirst earlier.succ (Fin.succ_lt_succ_iff.2 before)⟩
  · rintro ⟨notHead, isFirst⟩ earlier before
    cases earlier using Fin.cases with
    | zero => exact notHead
    | succ earlier => exact isFirst earlier (Fin.succ_lt_succ_iff.1 before)

/-- Of the documents that are identical to one there is a first. -/
theorem exists_isFirst (documents : List Document) (place : Fin documents.length) :
    ∃ first, IsFirst documents first ∧ (documents.get first).IsIdentical (documents.get place) := by
  induction place using WellFoundedLT.induction with
  | ind place inductionHypothesis =>
      by_cases isFirst : IsFirst documents place
      · exact ⟨place, isFirst, rfl⟩
      · unfold IsFirst at isFirst
        push Not at isFirst
        obtain ⟨earlier, before, same⟩ := isFirst
        obtain ⟨first, isFirst, sameAsEarlier⟩ := inductionHypothesis earlier before
        exact ⟨first, isFirst, sameAsEarlier.trans same⟩

/-- The first places of keys that have not been seen, in order. -/
structure ListsUnseen (seen : List String) (documents : List Document)
    (places : List (Fin documents.length)) : Prop where
  inOrder : places.Pairwise (· < ·)
  mem_iff : ∀ place, place ∈ places ↔
    (documents.get place).canonicalKey ∉ seen ∧ IsFirst documents place

namespace ListsUnseen

variable {seen : List String} {document : Document} {rest : List Document}
  {places : List (Fin rest.length)}

/-- A document whose key has been seen is passed over. -/
theorem skip (known : document.canonicalKey ∈ seen) (lists : ListsUnseen seen rest places) :
    ListsUnseen seen (document :: rest) (places.map Fin.succ) where
  inOrder := by
    rw [List.pairwise_map]
    exact lists.inOrder.imp Fin.succ_lt_succ_iff.2
  mem_iff := by
    intro place
    cases place using Fin.cases with
    | zero => simp [known]
    | succ place =>
        rw [List.mem_map_of_injective (Fin.succ_injective _), lists.mem_iff, isFirst_succ_iff,
          Document.isIdentical_iff]
        refine and_congr_right fun (isNew : (rest.get place).canonicalKey ∉ seen) => ?_
        have differs : document.canonicalKey ≠ (rest.get place).canonicalKey :=
          fun same => isNew (same ▸ known)
        exact ⟨fun isFirst => ⟨differs, isFirst⟩, fun isFirst => isFirst.2⟩

/-- A document with a new key is kept, and from then on its key has been seen. -/
theorem keep (isNew : document.canonicalKey ∉ seen)
    (lists : ListsUnseen (document.canonicalKey :: seen) rest places) :
    ListsUnseen seen (document :: rest) (0 :: places.map Fin.succ) where
  inOrder := by
    rw [List.pairwise_cons, List.pairwise_map]
    refine ⟨?_, lists.inOrder.imp Fin.succ_lt_succ_iff.2⟩
    intro later member
    obtain ⟨place, _, rfl⟩ := List.mem_map.1 member
    exact Fin.succ_pos place
  mem_iff := by
    intro place
    cases place using Fin.cases with
    | zero => exact ⟨fun _ => ⟨isNew, isFirst_zero document rest⟩, fun _ => List.mem_cons_self⟩
    | succ place =>
        rw [List.mem_cons, or_iff_right (Fin.succ_ne_zero place),
          List.mem_map_of_injective (Fin.succ_injective _), lists.mem_iff, isFirst_succ_iff,
          Document.isIdentical_iff, List.mem_cons, not_or]
        constructor
        · rintro ⟨⟨differs, unseen⟩, isFirst⟩
          exact ⟨unseen, Ne.symm differs, isFirst⟩
        · rintro ⟨unseen, differs, isFirst⟩
          exact ⟨⟨Ne.symm differs, unseen⟩, isFirst⟩

end ListsUnseen

/-- The run keeps the documents at the first places of keys that it has not seen. -/
theorem exists_listsUnseen (documents : List Document) (seen : List String) :
    ∃ places, ListsUnseen seen documents places ∧
      firstOccurrences seen documents = places.map documents.get := by
  induction documents generalizing seen with
  | nil => exact ⟨[], ⟨List.Pairwise.nil, fun place => place.elim0⟩, rfl⟩
  | cons document rest inductionHypothesis =>
      rw [firstOccurrences]
      by_cases known : document.canonicalKey ∈ seen
      · obtain ⟨places, lists, kept⟩ := inductionHypothesis seen
        exact ⟨_, lists.skip known, by simp [known, kept]⟩
      · obtain ⟨places, lists, kept⟩ := inductionHypothesis (document.canonicalKey :: seen)
        exact ⟨_, lists.keep known, by simp [known, kept]⟩

theorem firstOccurrences_of_pairwise {documents : List Document}
    (different : documents.Pairwise fun earlier later => ¬earlier.IsIdentical later)
    (seen : List String) (unseen : ∀ document ∈ documents, document.canonicalKey ∉ seen) :
    firstOccurrences seen documents = documents := by
  induction documents generalizing seen with
  | nil => rfl
  | cons document rest inductionHypothesis =>
      obtain ⟨documentDiffers, restDifferent⟩ := List.pairwise_cons.1 different
      have isNew := unseen document List.mem_cons_self
      rw [firstOccurrences]
      simp only [List.contains_eq_mem, isNew, decide_false, Bool.false_eq_true, reduceIte]
      rw [inductionHypothesis restDifferent]
      intro other member
      rw [List.mem_cons, not_or]
      refine ⟨?_, unseen other (List.mem_cons_of_mem _ member)⟩
      intro same
      exact documentDiffers other member ((Document.isIdentical_iff document other).2 same.symm)

/-- The first places of identical documents, in order. -/
structure ListsFirst (documents : List Document) (places : List (Fin documents.length)) :
    Prop where
  inOrder : places.Pairwise (· < ·)
  mem_iff : ∀ place, place ∈ places ↔ IsFirst documents place

namespace ListsFirst

variable {documents : List Document} {places : List (Fin documents.length)}

/-- No two of the listed documents are identical. -/
theorem different (listsFirst : ListsFirst documents places) :
    (places.map documents.get).Pairwise fun earlier later =>
      ¬earlier.IsIdentical later := by
  rw [List.pairwise_map]
  apply listsFirst.inOrder.imp_of_mem
  intro earlier later _ isLater before
  exact (listsFirst.mem_iff later).1 isLater earlier before

/-- Every document is identical to a listed one. -/
theorem complete (listsFirst : ListsFirst documents places) {document : Document}
    (member : document ∈ documents) :
    ∃ output ∈ places.map documents.get, output.IsIdentical document := by
  obtain ⟨place, inside, rfl⟩ := List.getElem_of_mem member
  obtain ⟨first, isFirst, same⟩ := exists_isFirst documents ⟨place, inside⟩
  exact ⟨documents.get first, List.mem_map_of_mem ((listsFirst.mem_iff first).2 isFirst), same⟩

end ListsFirst

/-! ## Distinct documents -/

theorem exists_listsFirst (field : Option String) (documents : List Document) :
    ∃ places, ListsFirst (documents.filterMap (project? field)) places ∧
      distinct field documents =
        places.map (documents.filterMap (project? field)).get := by
  obtain ⟨places, lists, kept⟩ := exists_listsUnseen (documents.filterMap (project? field)) []
  refine ⟨places, ⟨lists.inOrder, ?_⟩, kept⟩
  intro place
  rw [lists.mem_iff, and_iff_right List.not_mem_nil]

/-- What is kept is projected already. -/
theorem filterMap_project?_distinct (field : Option String) (documents : List Document) :
    (distinct field documents).filterMap (project? field) = distinct field documents := by
  obtain ⟨places, _, isKept⟩ := exists_listsFirst field documents
  have isProjected : ∀ output ∈ distinct field documents,
      project? field output = some output := by
    intro output member
    rw [isKept] at member
    obtain ⟨place, _, rfl⟩ := List.mem_map.1 member
    obtain ⟨document, _, projects⟩ := List.mem_filterMap.1 (List.getElem_mem place.isLt)
    exact project?_projected projects
  rw [List.filterMap_congr isProjected, List.filterMap_some]

/-- Distinct documents are the first occurrences among the projected ones, in their order: no two
are identical, every projected document is identical to one of them, and the same step changes
nothing when it is done again. -/
theorem distinct_exact (field : Option String) (documents : List Document) :
    let projected := documents.filterMap (project? field)
    (∀ document result,
        project? field document = some result ↔ Projects field document result) ∧
      (∃ places, ListsFirst projected places ∧
        distinct field documents = places.map projected.get) ∧
      ((distinct field documents).Pairwise fun earlier later => ¬earlier.IsIdentical later) ∧
      (∀ document ∈ projected, ∃ output ∈ distinct field documents,
        output.IsIdentical document) ∧
      distinct field (distinct field documents) = distinct field documents := by
  intro projected
  obtain ⟨places, listsFirst, isKept⟩ := exists_listsFirst field documents
  have different : (distinct field documents).Pairwise fun earlier later =>
      ¬earlier.IsIdentical later := by
    rw [isKept]
    exact listsFirst.different
  refine ⟨project?_eq_some_iff field, ⟨places, listsFirst, isKept⟩, different, ?_, ?_⟩
  · intro document member
    rw [isKept]
    exact listsFirst.complete member
  · rw [distinct, filterMap_project?_distinct]
    exact firstOccurrences_of_pairwise different [] fun _ _ => List.not_mem_nil

/-- A field inside a list is kept as a field inside an object, and found there again. -/
example :
    distinct (some "a.0") [⟨[("a", .array [.null])]⟩, ⟨[("b", .null)]⟩,
      ⟨[("a", .object [("0", .null), ("1", .null)])]⟩] = [⟨[("a", .object [("0", .null)])]⟩] := by
  rfl

end Stage

end DocStore
