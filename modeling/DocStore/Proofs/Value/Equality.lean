import DocStore.Proofs.Value.Normalised

/-!
Contract: values that equal their normal form.

Writing a value and reading it again puts zero for negative zero, which is equal
to it, and the name of a non-finite number for that number, which is not; nothing
else changes. JSON data has finite numbers alone: its decimals are finite, and
integers of 64 bits are far below the greatest double.

Owns: `Value.isFinite`, its law for the reader, and equality with the normal form.
-/

namespace DocStore

namespace Number

theorem equals_self {number : Number} (finite : number.isFinite = true) :
    number.equals number = true := by
  cases number with
  | finite negative position => simp [equals, isNaN]
  | _ => cases finite

theorem equals_withoutNegativeZero {number : Number} (finite : number.isFinite = true) :
    number.withoutNegativeZero.equals number = true := by
  rw [equals, isNaN_withoutNegativeZero, rank_withoutNegativeZero]
  exact equals_self finite

/-! ## Integers -/

theorem log2_mul_unitsPerOne_le {value bits : Nat} (small : value < 2 ^ bits) :
    Nat.log2 (value * unitsPerOne) ≤ bits + fractionPlaces := by
  have scaledSmall : value * unitsPerOne < 2 ^ (bits + fractionPlaces) := by
    rw [Nat.pow_add]
    exact Nat.mul_lt_mul_of_pos_right small unitsPerOne_pos
  rcases Nat.eq_zero_or_pos (value * unitsPerOne) with isZero | positive
  · rw [isZero, Nat.log2_zero]
    exact Nat.zero_le _
  · exact Nat.le_of_lt ((Nat.log2_lt (Nat.ne_of_gt positive)).2 scaledSmall)

/-- A whole number below a power of two is rounded to a position below that of the power. -/
theorem nearestPosition_lt {value bits : Nat} (small : value < 2 ^ bits) :
    nearestPosition value 1 < (bits + 1075) * 2 ^ 52 := by
  have logBounded := log2_mul_unitsPerOne_le small
  rw [fractionPlaces_eq] at logBounded
  unfold nearestPosition
  simp only [Nat.div_one, Nat.one_mul, Nat.pow_eq]
  generalize value * unitsPerOne = scaled at logBounded ⊢
  have shiftBounded : Nat.log2 scaled - 52 ≤ bits + 1022 := by omega
  have quotientSmall : scaled / 2 ^ (Nat.log2 scaled - 52) < 2 ^ 53 := by
    apply Nat.div_lt_of_lt_mul
    rw [← Nat.pow_add]
    apply Nat.lt_of_lt_of_le Nat.lt_log2_self
    exact Nat.pow_le_pow_right Nat.two_pos (by omega)
  have bounded : ∀ shift quotient more, shift ≤ bits + 1022 → quotient < 2 ^ 53 → more ≤ 1 →
      shift * 2 ^ 52 + quotient + more < (bits + 1075) * 2 ^ 52 := by
    intro shift quotient more
    omega
  apply bounded _ _ _ shiftBounded quotientSmall
  split
  · exact Nat.le_refl 1
  · exact Nat.zero_le 1

theorem isFinite_ofInt {value : Int} (sized : Json.isWordSized value = true) :
    (ofInt value).isFinite = true := by
  have bounds : -(2 ^ 63) ≤ value ∧ value < 2 ^ 64 := of_decide_eq_true sized
  have small : value.natAbs < 2 ^ 64 := by omega
  have below : nearestPosition value.natAbs 1 < gridSize :=
    Nat.lt_of_lt_of_le (nearestPosition_lt small) (by decide)
  unfold ofInt ofRatio atPosition
  rw [dif_pos below]
  rfl

end Number

namespace Value

mutual

/-- Whether a value holds no number but finite ones. -/
def isFinite : Value → Bool
  | number value => value.isFinite
  | array items => itemsFinite items
  | object fields => fieldsFinite fields
  | _ => true

def itemsFinite : List Value → Bool
  | [] => true
  | item :: rest => item.isFinite && itemsFinite rest

def fieldsFinite : List (String × Value) → Bool
  | [] => true
  | (_, item) :: rest => item.isFinite && fieldsFinite rest

end

theorem itemsFinite_iff (items : List Value) :
    itemsFinite items = true ↔ ∀ item ∈ items, item.isFinite = true := by
  induction items with
  | nil => simp [itemsFinite]
  | cons item rest inductionHypothesis => simp [itemsFinite, inductionHypothesis]

mutual

/-- A value equals its normal form exactly when it holds no number but finite ones. -/
theorem equals_normalised_eq : ∀ value : Value, value.normalised.equals value = value.isFinite
  | null => rfl
  | bool value => by simp [normalised, equals, isFinite]
  | string text => by simp [normalised, equals, isFinite]
  | number value => by
      rw [normalised, isFinite]
      cases finite : value.isFinite with
      | true =>
          rw [if_pos rfl, equals]
          exact Number.equals_withoutNegativeZero finite
      | false =>
          rw [if_neg Bool.false_ne_true]
          rfl
  | array items => by
      rw [normalised, equals, isFinite]
      exact itemsEqual_itemsNormalised items
  | object fields => by
      rw [normalised, equals, isFinite]
      exact fieldsEqual_fieldsNormalised fields

theorem itemsEqual_itemsNormalised : ∀ items : List Value,
    itemsEqual (itemsNormalised items) items = itemsFinite items
  | [] => rfl
  | item :: rest => by
      rw [itemsNormalised, itemsEqual, itemsFinite, equals_normalised_eq item,
        itemsEqual_itemsNormalised rest]

theorem fieldsEqual_fieldsNormalised : ∀ fields : List (String × Value),
    fieldsEqual (fieldsNormalised fields) fields = fieldsFinite fields
  | [] => rfl
  | (key, item) :: rest => by
      rw [fieldsNormalised, fieldsEqual, fieldsFinite, equals_normalised_eq item,
        fieldsEqual_fieldsNormalised rest, beq_self_eq_true, Bool.true_and]

end

theorem equals_normalised (value : Value) (finite : value.isFinite = true) :
    value.normalised.equals value = true :=
  (equals_normalised_eq value).trans finite

mutual

/-- A value without non-finite numbers equals itself. -/
theorem equals_self : ∀ value : Value, value.isFinite = true → value.equals value = true
  | null, _ => rfl
  | bool value, _ => by simp [equals]
  | string text, _ => by simp [equals]
  | number value, finite => by
      rw [isFinite] at finite
      rw [equals]
      exact Number.equals_self finite
  | array items, finite => by
      rw [isFinite] at finite
      rw [equals]
      exact itemsEqual_self items finite
  | object fields, finite => by
      rw [isFinite] at finite
      rw [equals]
      exact fieldsEqual_self fields finite

theorem itemsEqual_self : ∀ items : List Value, itemsFinite items = true →
    itemsEqual items items = true
  | [], _ => rfl
  | item :: rest, finite => by
      rw [itemsFinite, Bool.and_eq_true] at finite
      rw [itemsEqual, equals_self item finite.1, itemsEqual_self rest finite.2]
      rfl

theorem fieldsEqual_self : ∀ fields : List (String × Value), fieldsFinite fields = true →
    fieldsEqual fields fields = true
  | [], _ => rfl
  | (key, item) :: rest, finite => by
      rw [fieldsFinite, Bool.and_eq_true] at finite
      rw [fieldsEqual, equals_self item finite.1, fieldsEqual_self rest finite.2,
        beq_self_eq_true]
      rfl

end

mutual

/-- The values of faithful data are finite. -/
theorem isFinite_ofJson : ∀ json : Json, json.isFaithful = true → (ofJson json).isFinite = true
  | .null, _ | .bool _, _ | .string _, _ => rfl
  | .integer value, faithful => by
      rw [Json.isFaithful] at faithful
      rw [ofJson, isFinite]
      exact Number.isFinite_ofInt faithful
  | .decimal value, faithful => by
      rw [Json.isFaithful] at faithful
      exact faithful
  | .array items, faithful => by
      rw [Json.isFaithful] at faithful
      rw [ofJson, isFinite]
      exact itemsFinite_itemsOfJson items faithful
  | .object members, faithful => by
      rw [Json.isFaithful, Bool.and_eq_true] at faithful
      rw [ofJson, isFinite]
      exact fieldsFinite_fieldsOfJson members faithful.2

theorem itemsFinite_itemsOfJson : ∀ items : List Json, Json.itemsFaithful items = true →
    itemsFinite (itemsOfJson items) = true
  | [], _ => rfl
  | item :: rest, faithful => by
      rw [Json.itemsFaithful, Bool.and_eq_true] at faithful
      rw [itemsOfJson, itemsFinite, isFinite_ofJson item faithful.1,
        itemsFinite_itemsOfJson rest faithful.2]
      rfl

theorem fieldsFinite_fieldsOfJson : ∀ members : List (String × Json),
    Json.membersFaithful members = true → fieldsFinite (fieldsOfJson members) = true
  | [], _ => rfl
  | (_, item) :: rest, faithful => by
      rw [Json.membersFaithful, Bool.and_eq_true] at faithful
      rw [fieldsOfJson, fieldsFinite, isFinite_ofJson item faithful.1,
        fieldsFinite_fieldsOfJson rest faithful.2]
      rfl

end

end Value

end DocStore
