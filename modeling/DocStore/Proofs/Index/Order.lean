import DocStore.Proofs.Index.Lookup
import DocStore.Proofs.Stage.Joining
import DocStore.Proofs.Stage.Ties

/-!
Contract: index keys are in a lawful total order and tell their values as canonical keys do.

Keys of different kinds are ordered by kind, keys of one kind among themselves.
Numbers compare as the hardware compares them where that decides; it does not
for NaN, which comes after every number and is level with itself. The order of
index keys goes through integers and texts instead, and comes to the same.

Owns: `Number.compareNaNLast`, `IndexKey.compareByKind`, the laws of the order of index keys and
what index keys identify.
-/

namespace DocStore

namespace Number

/-- Numeric comparison, which decides nothing as soon as one side is NaN. -/
def compare? (left right : Number) : Option Ordering :=
  if left.isLess right then some .lt
  else if left.equals right then some .eq
  else if right.isLess left then some .gt
  else none

/-- The numeric order with NaN after every number and level with itself. -/
def compareNaNLast (left right : Number) : Ordering :=
  match left.isNaN, right.isNaN with
  | true, true => .eq
  | true, false => .gt
  | false, true => .lt
  | false, false => (left.compare? right).getD .eq

/-- Numbers that are not NaN are always decided, as their places are. -/
theorem compare?_eq_some {left right : Number} (leftNumber : left.isNaN = false)
    (rightNumber : right.isNaN = false) :
    left.compare? right = some (Ord.compare left.rank right.rank) := by
  simp only [compare?, isLess, equals, leftNumber, rightNumber, Bool.not_false, Bool.true_and,
    decide_eq_true_eq, beq_iff_eq]
  obtain less | same | more := Int.lt_trichotomy left.rank right.rank
  · rw [if_pos less, Int.compare_eq_lt.2 less]
  · rw [if_neg (by omega), if_pos same, Int.compare_eq_eq.2 same]
  · rw [if_neg (by omega), if_neg (by omega), if_pos more, Int.compare_eq_gt.2 more]

/-- The order by places is the numeric order with NaN last. -/
theorem compare_rank_eq (left right : Number) :
    Ord.compare left.rank right.rank = left.compareNaNLast right := by
  unfold compareNaNLast
  cases leftNaN : left.isNaN with
  | true =>
      cases rightNaN : right.isNaN with
      | true =>
          rw [rank_of_isNaN leftNaN, rank_of_isNaN rightNaN]
          exact Std.ReflOrd.compare_self
      | false =>
          have below := right.rank_le_gridSize rightNaN
          rw [rank_of_isNaN leftNaN]
          exact Int.compare_eq_gt.2 (by omega)
  | false =>
      cases rightNaN : right.isNaN with
      | true =>
          have below := left.rank_le_gridSize leftNaN
          rw [rank_of_isNaN rightNaN]
          exact Int.compare_eq_lt.2 (by omega)
      | false =>
          rw [compare?_eq_some leftNaN rightNaN]
          rfl

end Number

namespace IndexKey

/-- The order of index keys, kind by kind. -/
def compareByKind : IndexKey → IndexKey → Ordering
  | null, null => .eq
  | bool left, bool right => Ord.compare left right
  | number left, number right => left.number.compareNaNLast right.number
  | string left, string right => Ord.compare left right
  | object left, object right => Ord.compare left right
  | left, right => Ord.compare left.division right.division

theorem compare_of_division_ne {left right : IndexKey}
    (different : left.division ≠ right.division) :
    compare left right = compare left.division right.division := by
  have unfolded : compare left right = (compare left.division right.division).then
      ((compare left.place right.place).then (compare left.label right.label)) := rfl
  rw [unfolded]
  cases order : compare left.division right.division with
  | eq => exact absurd (Std.LawfulEqOrd.eq_of_compare order) different
  | lt => rfl
  | gt => rfl

theorem compare_eq_compareByKind (left right : IndexKey) :
    compare left right = compareByKind left right := by
  cases left with
  | null =>
      cases right with
      | null => rfl
      | _ => exact compare_of_division_ne (by simp [division])
  | bool left =>
      cases right with
      | bool right => cases left <;> cases right <;> rfl
      | _ => exact compare_of_division_ne (by simp [division])
  | number left =>
      cases right with
      | number right => rw [compare_number, Number.compare_rank_eq]; rfl
      | _ => exact compare_of_division_ne (by simp [division])
  | string left =>
      cases right with
      | string right => exact compare_string left right
      | _ => exact compare_of_division_ne (by simp [division])
  | object left =>
      cases right with
      | object right => exact compare_object left right
      | _ => exact compare_of_division_ne (by simp [division])

/-! ## Values with one key -/

/-- Values other than arrays have one index key exactly when they have one canonical key. -/
theorem ofValue?_eq_iff {left right : Value} (leftKeyed : left.kind ≠ .array)
    (rightKeyed : right.kind ≠ .array) :
    ofValue? left = ofValue? right ↔ left.canonicalKey = right.canonicalKey := by
  cases left with
  | array items => exact absurd rfl leftKeyed
  | object left =>
      cases right with
      | object right => rw [ofValue?, ofValue?, Option.some_inj, object.injEq]
      | _ =>
          rw [Value.canonicalKey_eq_iff]
          simp [ofValue?, Value.withoutNegativeZero]
  | _ =>
      rw [Value.canonicalKey_eq_iff]
      cases right <;> simp [ofValue?, Value.withoutNegativeZero, NumberKey.ofNumber]

/-- The order of index keys is the order by kinds in which numbers compare numerically and NaN is
last. It is a total order whose ties are equalities, for NaN and both zeros too. Values other than
arrays have one index key exactly when they have one canonical key, so an index puts together the
same values as distinctness and joins do. -/
theorem compare_exact :
    (∀ left right : IndexKey, compare left right = compareByKind left right) ∧
      ((∀ key : IndexKey, (compare key key).isLE = true) ∧
        (∀ left right : IndexKey, (compare left right).isLE = true →
          (compare right left).isLE = true → (left == right) = true) ∧
        (∀ first second third : IndexKey, (compare first second).isLE = true →
          (compare second third).isLE = true → (compare first third).isLE = true) ∧
        (∀ left right : IndexKey, (compare left right).isLE = true ∨
          (compare right left).isLE = true) ∧
        (∀ left right : IndexKey, compare right left = (compare left right).swap) ∧
        ∀ left right : IndexKey, compare left right = .eq ↔ (left == right) = true) ∧
      (∀ left right : Value, left.kind ≠ .array → right.kind ≠ .array →
        ((ofValue? left == ofValue? right) = true ↔ left.canonicalKey = right.canonicalKey)) ∧
      ∀ (field : String) (left right : Document) (leftValue rightValue : Value),
        left.get? field = some leftValue → right.get? field = some rightValue →
        leftValue.kind ≠ .array → rightValue.kind ≠ .array →
          ((ofValue? leftValue == ofValue? rightValue) = true ↔
            (Stage.distinct (some field) [left, right]).length = 1) ∧
          ((ofValue? leftValue == ofValue? rightValue) = true ↔
            (Stage.partnersOf field [right]).contains leftValue.canonicalKey = true) := by
  refine ⟨compare_eq_compareByKind, ⟨?_, ?_, ?_, ?_, ?_, ?_⟩, ?_, ?_⟩
  · intro key
    rw [Std.ReflOrd.compare_self]
    rfl
  · intro left right upward downward
    have tie : compare left right = .eq := Std.OrientedCmp.isLE_antisymm upward downward
    rw [beq_iff_eq]
    exact Std.LawfulEqOrd.eq_of_compare tie
  · exact fun first second third => Std.TransCmp.isLE_trans
  · intro left right
    have turned : compare right left = (compare left right).swap := Std.OrientedCmp.eq_swap
    rw [turned]
    cases compare left right <;> simp
  · exact fun left right => Std.OrientedCmp.eq_swap
  · intro left right
    rw [beq_iff_eq]
    exact Std.LawfulEqOrd.compare_eq_iff_eq
  · intro left right leftKeyed rightKeyed
    rw [beq_iff_eq]
    exact ofValue?_eq_iff leftKeyed rightKeyed
  · intro field left right leftValue rightValue leftHolds rightHolds leftKeyed rightKeyed
    rw [beq_iff_eq, ofValue?_eq_iff leftKeyed rightKeyed]
    exact ⟨(Stage.length_distinct_pair_eq_one_iff leftHolds rightHolds).symm,
      (Stage.contains_partnersOf_iff rightHolds _).symm⟩

private def signedZero : Number := .finite true ⟨0, Number.gridSize_pos⟩

/-- Infinity below zero, both zeros, and NaN at the end; the sign of zero does not show in the key
of an object either, and a text is no number. -/
theorem compare_exact_around_zero :
    let keyOf := fun value : Number => number (.ofNumber value)
    (compare (keyOf (.infinite true)) (keyOf .nan)).isLE = true ∧
      (keyOf signedZero == keyOf .zero) = true ∧
      ofValue? (.object [("at", .array [.number signedZero])]) =
        ofValue? (.object [("at", .array [.number .zero])]) ∧
      (Stage.distinct (some "n") [⟨[("n", .number (.ofNat 1))]⟩, ⟨[("n", .string "1")]⟩]).length ≠
        1 := by
  intro keyOf
  obtain ⟨_, ⟨_, antisymm, trans, _⟩, values, fields⟩ := compare_exact
  refine ⟨?_, ?_, ?_, ?_⟩
  · exact trans _ (keyOf signedZero) _ (by decide +kernel) (by decide +kernel)
  · exact antisymm _ _ (by decide +kernel) (by decide +kernel)
  · exact beq_iff_eq.1 ((values _ _ (by decide) (by decide)).2 (by decide +kernel))
  · intro single
    have same := (fields "n" _ _ (.number (.ofNat 1)) (.string "1") rfl rfl (by decide)
      (by decide)).1.2 single
    exact absurd same (by decide +kernel)

end IndexKey

end DocStore
