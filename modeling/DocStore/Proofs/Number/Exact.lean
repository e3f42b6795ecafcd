import Mathlib.Algebra.Ring.Int.Defs
import Mathlib.Algebra.Ring.Nat
import DocStore.Number.Shortest

/-!
Contract: quantities that lie on the grid are rounded to themselves.

A position is its scale in full binades and its significand, so the ratio that
has the exact value of a position is rounded to that position. Rounding sees a
ratio only, so a common factor makes no difference. The whole number that a
position holds, and the shortest decimal that is written for it, are therefore
read back to the same position.

Owns: exact rounding, and reading back of whole numbers and shortest decimals.
-/

namespace DocStore.Number

/-! ## Positions -/

theorem significand_eq (position : Nat) :
    significand position = if position < 2 ^ 52 then position else 2 ^ 52 + position % 2 ^ 52 := rfl

theorem scale_eq (position : Nat) : scale position = position / 2 ^ 52 - 1 := rfl

theorem units_eq (position : Nat) :
    units position = significand position * 2 ^ scale position := rfl

theorem unitsPerOne_eq : unitsPerOne = 2 ^ fractionPlaces := rfl

theorem unitsPerOne_pos : 0 < unitsPerOne := Nat.two_pow_pos fractionPlaces

theorem fractionPlaces_eq : fractionPlaces = 1074 := by rw [fractionPlaces]

theorem scale_significand (position : Nat) :
    scale position * 2 ^ 52 + significand position = position := by
  rw [scale_eq, significand_eq]
  split <;> omega

theorem units_pos {position : Nat} (positive : 0 < position) : 0 < units position := by
  have significandPositive : 0 < significand position := by
    rw [significand_eq]
    split <;> omega
  exact Nat.mul_pos significandPositive (Nat.two_pow_pos _)

theorem log2_units (position : Nat) : Nat.log2 (units position) - 52 = scale position := by
  by_cases small : position < 2 ^ 52
  · have noScale : scale position = 0 := by
      rw [scale_eq]
      omega
    have below : Nat.log2 (units position) < 53 := by
      have isPosition : units position = position := by
        rw [units_eq, significand_eq, if_pos small, noScale, Nat.pow_zero, Nat.mul_one]
      rw [isPosition]
      by_cases atZero : position = 0
      · rw [atZero]
        decide
      · rw [Nat.log2_lt atZero]
        omega
    omega
  · have bounds : 2 ^ 52 ≤ significand position ∧ significand position < 2 ^ 53 := by
      rw [significand_eq, if_neg small]
      omega
    have isLog : Nat.log2 (units position) = 52 + scale position := by
      rw [Nat.log2_eq_iff (by have := units_pos (by omega : 0 < position); omega)]
      rw [units_eq, show 52 + scale position + 1 = 53 + scale position by omega, Nat.pow_add,
        Nat.pow_add]
      exact ⟨Nat.mul_le_mul_right _ bounds.1, Nat.mul_lt_mul_of_pos_right bounds.2
        (Nat.two_pow_pos _)⟩
    omega

/-! ## Rounding -/

/-- A ratio with the exact value of a position is rounded to it. -/
theorem nearestPosition_of_exact {numerator denominator position : Nat}
    (positive : 0 < denominator)
    (exact : numerator * unitsPerOne = units position * denominator) :
    nearestPosition numerator denominator = position := by
  have quotient : numerator * unitsPerOne / denominator = units position := by
    rw [exact, Nat.mul_div_cancel _ positive]
  have spacingPositive : 0 < denominator * 2 ^ scale position :=
    Nat.mul_pos positive (Nat.two_pow_pos _)
  have grouped : numerator * unitsPerOne =
      significand position * (denominator * 2 ^ scale position) := by
    rw [exact, units_eq, Nat.mul_assoc, Nat.mul_comm (2 ^ scale position)]
  unfold nearestPosition
  simp only [quotient, log2_units, Nat.pow_eq]
  rw [grouped, Nat.mul_div_cancel _ spacingPositive, Nat.mul_mod_left]
  have noRounding : ¬(denominator * 2 ^ scale position < 2 * 0 ∨
      2 * 0 = denominator * 2 ^ scale position ∧ significand position % 2 = 1) := by
    omega
  rw [if_neg noRounding, Nat.add_zero]
  exact scale_significand position

theorem nearestPosition_mul_mul (numerator denominator : Nat) {factor : Nat}
    (positive : 0 < factor) :
    nearestPosition (numerator * factor) (denominator * factor) =
      nearestPosition numerator denominator := by
  have scaled : numerator * factor * unitsPerOne = numerator * unitsPerOne * factor := by
    rw [Nat.mul_assoc, Nat.mul_comm factor, Nat.mul_assoc]
  unfold nearestPosition
  simp only [scaled, Nat.mul_div_mul_right _ _ positive, Nat.pow_eq]
  generalize Nat.log2 (numerator * unitsPerOne / denominator) - 52 = shift
  have spacing : denominator * factor * 2 ^ shift = denominator * 2 ^ shift * factor := by
    rw [Nat.mul_assoc, Nat.mul_comm factor, Nat.mul_assoc]
  rw [spacing, Nat.mul_div_mul_right _ _ positive, Nat.mul_mod_mul_right]
  generalize numerator * unitsPerOne % (denominator * 2 ^ shift) = remainder
  have doubled : 2 * (remainder * factor) = 2 * remainder * factor := by rw [Nat.mul_assoc]
  simp only [doubled, Nat.mul_lt_mul_right positive, Nat.mul_right_cancel_iff positive]

/-! ## Whole numbers -/

/-- The whole number that a number holds is read back to it, negative zero to zero. -/
theorem ofInt_of_whole? {number : Number} {value : Int} (whole : number.whole? = some value) :
    ofInt value = number.withoutNegativeZero := by
  cases number with
  | nan => cases whole
  | infinite negative => cases whole
  | finite negative position =>
      have isWhole : units position.val % unitsPerOne = 0 ∧
          value = if negative then -((units position.val / unitsPerOne : Nat) : Int)
            else ((units position.val / unitsPerOne : Nat) : Int) := by
        simp only [whole?] at whole
        split at whole
        next conditions => exact ⟨conditions.1, (Option.some.inj whole).symm⟩
        next => cases whole
      obtain ⟨divides, isValue⟩ := isWhole
      have size : value.natAbs = units position.val / unitsPerOne := by
        rw [isValue]
        split
        · rw [Int.natAbs_neg, Int.natAbs_natCast]
        · rw [Int.natAbs_natCast]
      have exact : nearestPosition value.natAbs 1 = position.val := by
        apply nearestPosition_of_exact Nat.one_pos
        rw [size, Nat.div_mul_cancel (Nat.dvd_of_mod_eq_zero divides), Nat.mul_one]
      unfold ofInt ofRatio
      rw [exact, atPosition, dif_pos position.isLt, withoutNegativeZero]
      by_cases atZero : position.val = 0
      · rw [if_pos atZero]
        have noUnits : units position.val = 0 := by
          rw [atZero]
          decide
        have isZero : value = 0 := by
          rw [isValue, noUnits, Nat.zero_div]
          split <;> rfl
        rw [isZero]
        simp only [zero, Int.lt_irrefl, decide_false, finite.injEq, true_and]
        exact Fin.ext atZero
      · rw [if_neg atZero]
        have present : 0 < units position.val / unitsPerOne := by
          apply Nat.div_pos _ unitsPerOne_pos
          exact Nat.le_of_dvd (units_pos (by omega)) (Nat.dvd_of_mod_eq_zero divides)
        have sign : decide (value < 0) = negative := by
          cases negative with
          | true =>
              rw [if_pos rfl] at isValue
              rw [decide_eq_true_iff]
              omega
          | false =>
              rw [if_neg Bool.false_ne_true] at isValue
              rw [decide_eq_false_iff_not]
              omega
        rw [sign]

/-! ## Decimals -/

theorem readsBack_neighbour? {tie : Tie} {position : Nat} {point : Int} {count : Nat}
    {decimal : Decimal} (found : neighbour? tie position point count = some decimal) :
    decimal.position = position := by
  unfold neighbour? at found
  simp only at found
  split at found
  next belowReads aboveReads =>
    rw [← Option.some.inj found]
    split
    · exact beq_iff_eq.1 aboveReads
    · exact beq_iff_eq.1 belowReads
  next belowReads _ =>
    rw [← Option.some.inj found]
    exact beq_iff_eq.1 belowReads
  next _ aboveReads =>
    rw [← Option.some.inj found]
    exact beq_iff_eq.1 aboveReads
  next => cases found

/-- The exact value in full decimal digits reads back. -/
theorem position_exact {position : Nat} (positive : 0 < position) :
    Decimal.position ⟨units position * 5 ^ fractionPlaces, -fractionPlaces⟩ = position := by
  have places := fractionPlaces_eq
  have digitsPositive : 0 < units position * 5 ^ fractionPlaces :=
    Nat.mul_pos (units_pos positive) (Nat.pow_pos (by decide))
  have large : 2 * fractionPlaces ≤ (units position * 5 ^ fractionPlaces).log2 := by
    rw [Nat.le_log2 (by omega), Nat.pow_mul]
    calc (2 ^ 2) ^ fractionPlaces ≤ 5 ^ fractionPlaces := Nat.pow_le_pow_left (by decide) _
      _ ≤ units position * 5 ^ fractionPlaces := Nat.le_mul_of_pos_left _ (units_pos positive)
  have size : (-(fractionPlaces : Int)).natAbs = fractionPlaces := by omega
  have notTiny : ¬(units position * 5 ^ fractionPlaces).log2 + 1100 <
      3 * (-(fractionPlaces : Int)).natAbs := by
    omega
  have noLarge : ¬(400 : Int) < -fractionPlaces := by omega
  have negative : ¬(0 : Int) ≤ -fractionPlaces := by omega
  unfold Decimal.position
  simp only
  rw [if_neg (Nat.ne_of_gt digitsPositive), if_neg noLarge, if_neg negative, if_neg notTiny, size]
  apply nearestPosition_of_exact (Nat.pow_pos (by decide))
  rw [Nat.mul_assoc, unitsPerOne_eq, ← Nat.mul_pow]

theorem position_searchFrom (tie : Tie) {position : Nat} (positive : 0 < position) (point : Int)
    (count attempts : Nat) :
    (searchFrom tie position point count attempts).position = position := by
  induction attempts generalizing count with
  | zero => exact position_exact positive
  | succ attempts inductionHypothesis =>
      unfold searchFrom
      split
      next found => exact readsBack_neighbour? found
      next => exact inductionHypothesis (count + 1)

/-- The shortest decimal of a position reads back to it. -/
theorem position_shortest (tie : Tie) (position : Nat) :
    (shortest tie position).position = position := by
  unfold shortest
  by_cases atZero : position = 0
  · rw [if_pos atZero, atZero]
    rfl
  · rw [if_neg atZero]
    exact position_searchFrom tie (by omega) _ _ _

theorem eq_zero_of_no_digits {tie : Tie} {position : Nat}
    (noDigits : (shortest tie position).digits = 0) : position = 0 := by
  rw [← position_shortest tie position, Decimal.position, if_pos noDigits]

/-- Only the double zero is written with the digit zero alone. -/
theorem exponent_of_no_digits {tie : Tie} {position : Nat}
    (noDigits : (shortest tie position).digits = 0) : (shortest tie position).exponent = 0 := by
  rw [eq_zero_of_no_digits noDigits]
  rfl

/-- The shortest decimal of a double is within the range that is read. -/
theorem exponent_shortest_le {tie : Tie} {position : Nat} (inside : position < gridSize) :
    (shortest tie position).exponent ≤ 400 := by
  by_cases noDigits : (shortest tie position).digits = 0
  · rw [exponent_of_no_digits noDigits]
    decide
  · by_contra beyond
    have reads := position_shortest tie position
    rw [Decimal.position, if_neg noDigits, if_pos (by omega)] at reads
    omega

/-- A decimal without fraction is rounded as the whole number it is. -/
theorem position_natCast (digits : Nat) {exponent : Nat} (bounded : exponent ≤ 400) :
    Decimal.position ⟨digits, exponent⟩ = nearestPosition (digits * 10 ^ exponent) 1 := by
  have noLarge : ¬(400 : Int) < exponent := by omega
  unfold Decimal.position
  simp only
  by_cases noDigits : digits = 0
  · have noUnits : 0 * unitsPerOne = units 0 * 1 := by rw [Nat.zero_mul, Nat.mul_one]; rfl
    rw [if_pos noDigits, noDigits, Nat.zero_mul, nearestPosition_of_exact Nat.one_pos noUnits]
  · rw [if_neg noDigits, if_neg noLarge, if_pos (Int.natCast_nonneg _), Int.toNat_natCast,
      Nat.pow_eq]

/-- Zeros that are written out behind the digits change nothing. -/
theorem position_padded (digits : Nat) {zeros : Nat} (bounded : zeros ≤ 400) :
    Decimal.position ⟨digits * 10 ^ zeros, 0⟩ = Decimal.position ⟨digits, zeros⟩ := by
  have written := position_natCast (digits * 10 ^ zeros) (Nat.zero_le 400)
  rw [Nat.pow_zero, Nat.mul_one] at written
  rw [position_natCast digits bounded, ← written]
  rfl

/-- Digits that are moved behind the point without changing the value change nothing. -/
theorem position_shifted (digits : Nat) {exponent : Nat} (bounded : exponent ≤ 400) :
    Decimal.position ⟨digits * 10 ^ (exponent + 1), -1⟩ = Decimal.position ⟨digits, exponent⟩ := by
  by_cases noDigits : digits = 0
  · unfold Decimal.position
    rw [noDigits, Nat.zero_mul, if_pos rfl, if_pos rfl]
  have positive : 0 < digits * 10 ^ (exponent + 1) :=
    Nat.mul_pos (by omega) (Nat.pow_pos (by decide))
  have shifted : Decimal.position ⟨digits * 10 ^ (exponent + 1), -1⟩ =
      nearestPosition (digits * 10 ^ (exponent + 1)) 10 := by
    have small : ¬(digits * 10 ^ (exponent + 1)).log2 + 1100 < 3 * (-1 : Int).natAbs := by
      show ¬(digits * 10 ^ (exponent + 1)).log2 + 1100 < 3 * 1
      omega
    have noLarge : ¬(400 : Int) < -1 := by decide
    have negative : ¬(0 : Int) ≤ -1 := by decide
    unfold Decimal.position
    simp only
    rw [if_neg (Nat.ne_of_gt positive), if_neg noLarge, if_neg negative, if_neg small]
    rfl
  have factored : digits * 10 ^ (exponent + 1) = digits * 10 ^ exponent * 10 := by
    rw [Nat.pow_succ, Nat.mul_assoc]
  rw [shifted, position_natCast digits bounded, factored]
  exact nearestPosition_mul_mul (digits * 10 ^ exponent) 1 (by decide)

end DocStore.Number
