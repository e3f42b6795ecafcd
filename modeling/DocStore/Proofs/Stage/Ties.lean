import DocStore.Proofs.Stage.Sorting
import DocStore.Proofs.Value.Lens
import DocStore.Proofs.Value.Ties
import DocStore.Stage.Distinct

/-!
Contract: documents tie in a sort exactly when their fields are one distinct value.

The order of optional values is a total preorder, and present values tie when
they share their canonical key. A document that holds a value at a path and
nothing else tells the key of that value, so the values that a sort leaves in
their order are those of which only the first is kept as distinct.

Owns: canonical keys of documents with a single field, and the ties of `Stage.compareBy`.
-/

namespace DocStore

/-- Negative zeros inside a single field are replaced where they stand. -/
theorem Value.withoutNegativeZero_wrapped (value : Value) (segments : List String) :
    (value.wrapped segments).withoutNegativeZero = value.withoutNegativeZero.wrapped segments := by
  induction segments with
  | nil => rfl
  | cons segment rest inductionHypothesis =>
      rw [wrapped, withoutNegativeZero, fieldsWithoutNegativeZero, fieldsWithoutNegativeZero,
        inductionHypothesis, wrapped]

/-- A document with a single field has the canonical key that the value of the field gives it. -/
theorem Document.canonicalKey_set_empty_eq_iff (field : String) (left right : Value) :
    (empty.set field left).canonicalKey = (empty.set field right).canonicalKey ↔
      left.canonicalKey = right.canonicalKey := by
  rw [canonicalKey, canonicalKey, toValue_set_empty, toValue_set_empty, Value.canonicalKey_eq_iff,
    Value.canonicalKey_eq_iff, Value.withoutNegativeZero_wrapped,
    Value.withoutNegativeZero_wrapped]
  exact ⟨Value.wrapped_inj, fun same => by rw [same]⟩

namespace Stage

theorem compareBy_eq_eq_iff (field : String) (ascending : Bool) (left right : Document) :
    compareBy field ascending left right = .eq ↔
      (left.get? field).map Value.canonicalKey = (right.get? field).map Value.canonicalKey := by
  unfold compareBy
  split
  · exact Value.compareOptional_eq_eq_iff _ _
  · rw [Value.compareOptional_eq_eq_iff]
    exact eq_comm

/-- Of two documents that hold a field one is left as distinct exactly when they tie by it. -/
theorem length_distinct_pair_eq_one_iff {field : String} {left right : Document}
    {leftValue rightValue : Value} (leftHolds : left.get? field = some leftValue)
    (rightHolds : right.get? field = some rightValue) :
    (distinct (some field) [left, right]).length = 1 ↔
      leftValue.canonicalKey = rightValue.canonicalKey := by
  rw [← Document.canonicalKey_set_empty_eq_iff field]
  have projected : [left, right].filterMap (project? (some field)) =
      [Document.empty.set field leftValue, Document.empty.set field rightValue] := by
    simp [project?, leftHolds, rightHolds]
  rw [distinct, projected]
  by_cases same : (Document.empty.set field leftValue).canonicalKey =
      (Document.empty.set field rightValue).canonicalKey
  · simp [firstOccurrences, same]
  · simp [firstOccurrences, same, Ne.symm same]

/-- The order of optional values is a total preorder, in which present values tie exactly when
they share their canonical key: the documents that a sort by a field leaves in their order are
those of which only one is kept as distinct by that field. -/
theorem totalPreorder_ties :
    (∀ value, Value.compareOptional value value = .eq) ∧
      (∀ left right,
        Value.compareOptional right left = (Value.compareOptional left right).swap) ∧
      (∀ first second third, (Value.compareOptional first second).isLE = true →
        (Value.compareOptional second third).isLE = true →
          (Value.compareOptional first third).isLE = true) ∧
      (∀ left right, Value.compareOptional (some left) (some right) = .eq ↔
        left.canonicalKey = right.canonicalKey) ∧
      ∀ field ascending left right, (left.get? field).isSome = true →
        (right.get? field).isSome = true →
          (compareBy field ascending left right = .eq ↔
            (distinct (some field) [left, right]).length = 1) := by
  refine ⟨?_, ?_, ?_, ?_, ?_⟩
  · intro value
    exact (Value.compareOptional_eq_eq_iff value value).2 rfl
  · intro left right
    exact @Std.OrientedCmp.eq_swap _ Value.compareOptional _ right left
  · intro first second third
    exact @Std.TransCmp.isLE_trans _ Value.compareOptional _ first second third
  · intro left right
    rw [Value.compareOptional_eq_eq_iff, Option.map_some, Option.map_some, Option.some_inj]
  · intro field ascending left right leftHolds rightHolds
    obtain ⟨leftValue, leftAt⟩ := Option.isSome_iff_exists.1 leftHolds
    obtain ⟨rightValue, rightAt⟩ := Option.isSome_iff_exists.1 rightHolds
    rw [compareBy_eq_eq_iff, length_distinct_pair_eq_one_iff leftAt rightAt, leftAt, rightAt,
      Option.map_some, Option.map_some, Option.some_inj]

/-- Not a number comes before texts, capital letters before small ones; the zeros are one value,
in lists and in fields. -/
theorem totalPreorder_ties_mixed :
    (Value.compareOptional (some (.number .nan)) (some (.string "a"))).isLE = true ∧
      (Value.array [.number (.finite true ⟨0, Number.gridSize_pos⟩)]).canonicalKey =
        (Value.array [.number .zero]).canonicalKey ∧
      (distinct (some "n") [⟨[("n", .number (.finite true ⟨0, Number.gridSize_pos⟩))]⟩,
        ⟨[("n", .number .zero)]⟩]).length = 1 := by
  obtain ⟨_, _, trans, ties, sorts⟩ := totalPreorder_ties
  refine ⟨?_, (ties _ _).1 (by decide), (sorts "n" true _ _ (by decide) (by decide)).1 (by decide)⟩
  exact trans _ (some (.string "A")) _ (by decide) (by decide)

end Stage

end DocStore
