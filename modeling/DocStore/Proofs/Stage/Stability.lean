import Mathlib.Data.List.FinRange
import DocStore.Proofs.Stage.Sorting

/-!
Contract: sorting is a stable rearrangement of the documents in the order of their field.

The places of a list are sorted along with what stands at them. No place is lost
or doubled, values do not descend, or do not ascend, and places with tied values
keep their order whichever way the sort goes: in both directions an element is
placed right before the first one that it is below or tied with. A list in order
is left alone, so a second sort changes nothing.

Owns: `IsStableSort` and the law of `Stage.sort`.
-/

namespace DocStore.Stage

section Stable

variable {Item : Type} {isLE : Item → Item → Bool}

/-- Elements that tie in a stable sort stand as they stood before. -/
theorem pairwise_mergeSort_of_tie (trans : ∀ first second third : Item,
      isLE first second → isLE second third → isLE first third)
    (total : ∀ first second : Item, isLE first second || isLE second first)
    {before : Item → Item → Prop} {items : List Item} (inOrder : items.Pairwise before) :
    (items.mergeSort isLE).Pairwise fun earlier later =>
      isLE later earlier → before earlier later := by
  induction items with
  | nil => simp
  | cons item rest inductionHypothesis =>
      obtain ⟨itemBefore, restInOrder⟩ := List.pairwise_cons.1 inOrder
      obtain ⟨front, back, sorted, restSorted, frontAbove⟩ :=
        List.mergeSort_cons trans total item rest
      have restTies := inductionHypothesis restInOrder
      rw [restSorted, List.pairwise_append] at restTies
      obtain ⟨frontTies, backTies, acrossTies⟩ := restTies
      have backBefore : ∀ other ∈ back, before item other := by
        intro other member
        apply itemBefore
        rw [← (List.mergeSort_perm rest isLE).mem_iff, restSorted]
        exact List.mem_append_right _ member
      rw [sorted, List.pairwise_append, List.pairwise_cons]
      refine ⟨frontTies, ⟨fun other member _ => backBefore other member, backTies⟩, ?_⟩
      intro earlier isFront later isLater tie
      rcases List.mem_cons.1 isLater with rfl | isBack
      · -- Nothing in front of an element ties with it from above.
        have above := frontAbove earlier isFront
        rw [tie] at above
        cases above
      · exact acrossTies earlier isFront later isBack tie

/-- The places of a list, sorted by what stands at them. -/
def sortedPlaces (isLE : Item → Item → Bool) (items : List Item) : List (Fin items.length) :=
  (List.finRange items.length).mergeSort fun left right => isLE (items.get left) (items.get right)

theorem mergeSort_eq_map_sortedPlaces (items : List Item) :
    items.mergeSort isLE = (sortedPlaces isLE items).map items.get := by
  have mapped := List.map_mergeSort (l := List.finRange items.length) (s := isLE)
    (f := items.get) fun _ _ _ _ => rfl
  rw [List.map_get_finRange] at mapped
  exact mapped.symm

/-- The sorted places stand in the order of their elements, and in their own where these tie. -/
theorem pairwise_sortedPlaces (trans : ∀ first second third : Item,
      isLE first second → isLE second third → isLE first third)
    (total : ∀ first second : Item, isLE first second || isLE second first) (items : List Item) :
    (sortedPlaces isLE items).Pairwise fun earlier later =>
      isLE (items.get earlier) (items.get later) ∧
        (isLE (items.get later) (items.get earlier) → earlier < later) := by
  have placeTrans : ∀ first second third : Fin items.length,
      isLE (items.get first) (items.get second) → isLE (items.get second) (items.get third) →
        isLE (items.get first) (items.get third) := fun _ _ _ => trans _ _ _
  have placeTotal : ∀ first second : Fin items.length,
      isLE (items.get first) (items.get second) || isLE (items.get second) (items.get first) :=
    fun _ _ => total _ _
  exact (List.pairwise_mergeSort placeTrans placeTotal _).and
    (pairwise_mergeSort_of_tie placeTrans placeTotal (List.pairwise_lt_finRange items.length))

end Stable

/-- Places in the order of a stable sort by the values at them. -/
structure IsStableSort {count : Nat} (valueAt : Fin count → Option Value) (ascending : Bool)
    (places : List (Fin count)) : Prop where
  /-- Every place comes up once. -/
  perm : places.Perm (List.finRange count)
  /-- No value comes after a later one, or before it when the order descends. -/
  ordered : places.Pairwise fun earlier later =>
    Value.compareOptional (valueAt earlier) (valueAt later) ≠ if ascending then .gt else .lt
  /-- Places with tied values stand in their own order. -/
  stable : places.Pairwise fun earlier later =>
    Value.compareOptional (valueAt earlier) (valueAt later) = .eq → earlier < later

/-- A document is not after another in a direction. -/
theorem isLE_compareBy_iff (field : String) (ascending : Bool) (left right : Document) :
    (compareBy field ascending left right).isLE = true ↔
      Value.compareOptional (left.get? field) (right.get? field) ≠
        if ascending then .gt else .lt := by
  cases ascending with
  | true =>
      show (Value.compareOptional (left.get? field) (right.get? field)).isLE = true ↔ _
      cases Value.compareOptional (left.get? field) (right.get? field) <;> decide
  | false =>
      show (Value.compareOptional (right.get? field) (left.get? field)).isLE = true ↔ _
      rw [@Std.OrientedCmp.eq_swap _ Value.compareOptional]
      cases Value.compareOptional (left.get? field) (right.get? field) <;> decide

theorem isStableSort_sortedPlaces (field : String) (ascending : Bool)
    (documents : List Document) :
    IsStableSort (fun place => (documents.get place).get? field) ascending
      (sortedPlaces (fun left right => (compareBy field ascending left right).isLE)
        documents) := by
  have placed := pairwise_sortedPlaces (isLE_compareBy_trans field ascending)
    (isLE_compareBy_total field ascending) documents
  refine ⟨List.mergeSort_perm _ _, placed.imp ?_, placed.imp ?_⟩
  · rintro earlier later ⟨notAfter, _⟩
    exact (isLE_compareBy_iff ..).1 notAfter
  · rintro earlier later ⟨_, keepsOrder⟩ tie
    apply keepsOrder
    rw [isLE_compareBy_iff, @Std.OrientedCmp.eq_swap _ Value.compareOptional, tie]
    cases ascending <;> decide

/-- Sorting puts the documents into the order of their field, in either direction, keeps documents
that tie in the order of the input, and changes nothing when it is done again. -/
theorem sort_exact (field : String) (ascending : Bool) (documents : List Document) :
    (∃ places,
        IsStableSort (fun place => (documents.get place).get? field) ascending places ∧
        sort field ascending documents = places.map documents.get) ∧
      sort field ascending (sort field ascending documents) = sort field ascending documents := by
  constructor
  · exact ⟨_, isStableSort_sortedPlaces field ascending documents,
      mergeSort_eq_map_sortedPlaces documents⟩
  · exact List.mergeSort_of_pairwise (List.pairwise_mergeSort
      (isLE_compareBy_trans field ascending) (isLE_compareBy_total field ascending) documents)

end DocStore.Stage
