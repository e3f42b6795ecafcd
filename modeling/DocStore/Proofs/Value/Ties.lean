import DocStore.Proofs.Value.Canonical
import DocStore.Proofs.Value.Order

/-!
Contract: values tie in their order exactly when they share their canonical key.

The order goes by kind first, then by the numeric order, the texts or the items
of the values, so a tie goes down to the leaves. There it leaves only the sign
of zero open, which is what the canonical text leaves open too.

Owns: `Value.compare_eq_eq_iff` and `Value.compareOptional_eq_eq_iff`.
-/

namespace DocStore.Value

theorem compareStrings_eq_eq_iff (left right : String) :
    compareStrings left right = .eq ↔ left = right := by
  rw [compareStrings, Ordering.then_eq_eq, Std.LawfulEqOrd.compare_eq_iff_eq,
    Std.LawfulEqOrd.compare_eq_iff_eq]
  exact ⟨fun tie => tie.2, fun same => ⟨by rw [same], same⟩⟩

/-- Objects are ordered by their canonical text, which is their canonical key without its mark. -/
theorem compare_object_eq_eq_iff (left right : Fields) :
    compare (object left) (object right) = .eq ↔
      (object left).withoutNegativeZero = (object right).withoutNegativeZero := by
  rw [← canonicalKey_eq_iff, compare, Std.LawfulEqOrd.compare_eq_iff_eq, canonical, canonical,
    canonicalKey, canonicalKey, String.ofList_inj, String.ofList_inj, List.cons.injEq,
    List.cons.injEq]
  exact ⟨fun same => ⟨rfl, rfl, same⟩, fun same => same.2.2⟩

/-- Values of different kinds neither tie nor are they the same tree. -/
theorem compare_eq_eq_iff_of_kind_ne {left right : Value} (different : left.kind ≠ right.kind) :
    compare left right = .eq ↔ left.withoutNegativeZero = right.withoutNegativeZero := by
  constructor
  · intro tie
    rw [compare_of_kind_ne different, Std.LawfulEqOrd.compare_eq_iff_eq] at tie
    exact absurd (rank_inj tie) different
  · intro same
    rw [← kind_withoutNegativeZero left, same, kind_withoutNegativeZero] at different
    exact absurd rfl different

mutual

/-- Values tie exactly when they are the same tree but for the sign of zero. -/
theorem compare_eq_eq_iff : ∀ left right : Value,
    compare left right = .eq ↔ left.withoutNegativeZero = right.withoutNegativeZero
  | null, right => by
      cases right with
      | null => exact ⟨fun _ => rfl, fun _ => rfl⟩
      | _ => exact compare_eq_eq_iff_of_kind_ne nofun
  | bool left, right => by
      cases right with
      | bool right =>
          rw [compare, Std.LawfulEqOrd.compare_eq_iff_eq, withoutNegativeZero, withoutNegativeZero,
            bool.injEq] <;> nofun
      | _ => exact compare_eq_eq_iff_of_kind_ne nofun
  | number left, right => by
      cases right with
      | number right =>
          rw [compare, Number.compare, Std.LawfulEqOrd.compare_eq_iff_eq, withoutNegativeZero,
            withoutNegativeZero, number.injEq, Number.withoutNegativeZero_eq_iff]
      | _ => exact compare_eq_eq_iff_of_kind_ne nofun
  | string left, right => by
      cases right with
      | string right =>
          rw [compare, compareStrings_eq_eq_iff, withoutNegativeZero, withoutNegativeZero,
            string.injEq] <;> nofun
      | _ => exact compare_eq_eq_iff_of_kind_ne nofun
  | array left, right => by
      cases right with
      | array right =>
          rw [compare, compareItems_eq_eq_iff left right, withoutNegativeZero, withoutNegativeZero,
            array.injEq]
      | _ => exact compare_eq_eq_iff_of_kind_ne nofun
  | object left, right => by
      cases right with
      | object right => exact compare_object_eq_eq_iff left right
      | _ => exact compare_eq_eq_iff_of_kind_ne nofun

theorem compareItems_eq_eq_iff : ∀ left right : List Value,
    compareItems left right = .eq ↔
      itemsWithoutNegativeZero left = itemsWithoutNegativeZero right
  | [], [] => ⟨fun _ => rfl, fun _ => rfl⟩
  | [], _ :: _ => ⟨nofun, nofun⟩
  | _ :: _, [] => ⟨nofun, nofun⟩
  | left :: leftRest, right :: rightRest => by
      rw [compareItems, Ordering.then_eq_eq, compare_eq_eq_iff left right,
        compareItems_eq_eq_iff leftRest rightRest, itemsWithoutNegativeZero,
        itemsWithoutNegativeZero, List.cons.injEq]

end

/-- Present values tie exactly when they share their canonical key; a missing one ties with a
missing one only. -/
theorem compareOptional_eq_eq_iff (left right : Option Value) :
    compareOptional left right = .eq ↔ left.map canonicalKey = right.map canonicalKey := by
  cases left with
  | none => cases right <;> simp [compareOptional]
  | some left =>
      cases right with
      | none => simp [compareOptional]
      | some right =>
          rw [compareOptional, Option.map_some, Option.map_some, Option.some_inj,
            compare_eq_eq_iff, canonicalKey_eq_iff]

end DocStore.Value
