import DocStore.Proofs.Text.Cut
import DocStore.Proofs.Value.Order
import DocStore.Stage.Sorting

/-!
Contract: sorting keeps apart what filtering keeps apart.

The order of documents by a field is a total preorder in both directions. A
stable sort places every document right before the first greater one, so leaving
documents out before the sort or after it comes to the same.

Owns: the laws of `Stage.compareBy`, and `Stage.sort` of a filtered list.
-/

namespace DocStore.Stage

/-! ## The order by a field -/

instance compareBy_trans (field : String) (ascending : Bool) :
    Std.TransCmp (compareBy field ascending) where
  eq_swap {left right} := by
    unfold compareBy
    split
    · exact @Std.OrientedCmp.eq_swap _ Value.compareOptional _ _ _
    · exact @Std.OrientedCmp.eq_swap _ Value.compareOptional _ _ _
  isLE_trans {first second third} := by
    unfold compareBy
    split
    · exact @Std.TransCmp.isLE_trans _ Value.compareOptional _ _ _ _
    · exact fun below above => @Std.TransCmp.isLE_trans _ Value.compareOptional _ _ _ _ above below

theorem isLE_compareBy_trans (field : String) (ascending : Bool) (first second third : Document) :
    (compareBy field ascending first second).isLE = true →
      (compareBy field ascending second third).isLE = true →
        (compareBy field ascending first third).isLE = true :=
  @Std.TransCmp.isLE_trans _ (compareBy field ascending) _ first second third

theorem isLE_compareBy_total (field : String) (ascending : Bool) (first second : Document) :
    ((compareBy field ascending first second).isLE ||
      (compareBy field ascending second first).isLE) = true := by
  rw [@Std.OrientedCmp.eq_swap _ (compareBy field ascending) _ second first]
  cases compareBy field ascending first second <;> rfl

/-! ## Stable sorts of filtered lists -/

section Stable

variable {Item : Type} {isLE : Item → Item → Bool}

/-- A stable sort of a filtered list is the filtered stable sort. -/
theorem filter_mergeSort (trans : ∀ first second third : Item,
      isLE first second → isLE second third → isLE first third)
    (total : ∀ first second : Item, isLE first second || isLE second first)
    (keeps : Item → Bool) (items : List Item) :
    (items.mergeSort isLE).filter keeps = (items.filter keeps).mergeSort isLE := by
  induction items with
  | nil => simp
  | cons item rest inductionHypothesis =>
      obtain ⟨before, after, sorted, restSorted, beforeAbove⟩ :=
        List.mergeSort_cons trans total item rest
      rw [restSorted, List.filter_append] at inductionHypothesis
      rw [sorted, List.filter_append]
      by_cases kept : keeps item = true
      · obtain ⟨front, back, filteredSorted, filteredRest, frontAbove⟩ :=
          List.mergeSort_cons trans total item (rest.filter keeps)
        rw [List.filter_cons_of_pos kept, List.filter_cons_of_pos kept, filteredSorted]
        -- Both sides hold the item behind everything that it is not below.
        have ordered := List.pairwise_mergeSort trans total (item :: rest)
        have filteredOrdered := List.pairwise_mergeSort trans total (item :: rest.filter keeps)
        rw [sorted] at ordered
        rw [filteredSorted] at filteredOrdered
        have afterBelow := (List.pairwise_cons.1 (List.pairwise_append.1 ordered).2.1).1
        have backBelow := (List.pairwise_cons.1 (List.pairwise_append.1 filteredOrdered).2.1).1
        rw [filteredRest] at inductionHypothesis
        have afterStops : Text.Stops (fun other => !isLE item other) (after.filter keeps) := by
          intro other isHead
          have member := (List.mem_filter.1 (List.mem_of_head? isHead)).1
          simp [afterBelow other member]
        have backStops : Text.Stops (fun other => !isLE item other) back := by
          intro other isHead
          simp [backBelow other (List.mem_of_head? isHead)]
        obtain ⟨fronts, backs⟩ := Text.append_inj_of_stops
          (fun other member => beforeAbove other (List.mem_filter.1 member).1) frontAbove
          afterStops backStops inductionHypothesis
        rw [fronts, backs]
      · rw [List.filter_cons_of_neg kept, List.filter_cons_of_neg kept]
        exact inductionHypothesis

end Stable

/-- Documents can be left out before they are sorted. -/
theorem filter_sort (field : String) (ascending : Bool) (keeps : Document → Bool)
    (documents : List Document) :
    (sort field ascending documents).filter keeps =
      sort field ascending (documents.filter keeps) :=
  filter_mergeSort (isLE_compareBy_trans field ascending) (isLE_compareBy_total field ascending)
    keeps documents

end DocStore.Stage
