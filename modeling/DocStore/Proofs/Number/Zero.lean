import DocStore.Number.Basic

/-!
Contract: the sign of zero is all that reading negative zero as zero takes away.

The place of a number in numeric order and the whole number it holds stay as
they are, and a number that is not whole stays itself.

Owns: what `Number.withoutNegativeZero` keeps.
-/

namespace DocStore.Number

theorem rank_withoutNegativeZero (number : Number) :
    number.withoutNegativeZero.rank = number.rank := by
  cases number with
  | nan => rfl
  | infinite negative => rfl
  | finite negative position =>
      simp only [withoutNegativeZero]
      split
      next atZero => cases negative <;> simp [zero, rank, atZero]
      next => rfl

theorem isNaN_withoutNegativeZero (number : Number) :
    number.withoutNegativeZero.isNaN = number.isNaN := by
  cases number with
  | nan => rfl
  | infinite negative => rfl
  | finite negative position =>
      simp only [withoutNegativeZero]
      split <;> rfl

theorem whole?_of_position_zero {negative : Bool} {position : Fin gridSize}
    (atZero : position.val = 0) : (finite negative position).whole? = some 0 := by
  have isZero : position = ⟨0, gridSize_pos⟩ := Fin.ext atZero
  rw [isZero]
  cases negative <;> decide +kernel

/-- A number that is not whole is not a zero. -/
theorem withoutNegativeZero_of_not_whole {number : Number} (notWhole : number.whole? = none) :
    number.withoutNegativeZero = number := by
  cases number with
  | nan => rfl
  | infinite negative => rfl
  | finite negative position =>
      have notZero : position.val ≠ 0 := by
        intro atZero
        rw [whole?_of_position_zero atZero] at notWhole
        cases notWhole
      rw [withoutNegativeZero, if_neg notZero]

theorem whole?_withoutNegativeZero (number : Number) :
    number.withoutNegativeZero.whole? = number.whole? := by
  cases number with
  | nan => rfl
  | infinite negative => rfl
  | finite negative position =>
      rw [withoutNegativeZero]
      by_cases atZero : position.val = 0
      · rw [if_pos atZero, zero, whole?_of_position_zero atZero, whole?_of_position_zero rfl]
      · rw [if_neg atZero]

end DocStore.Number
