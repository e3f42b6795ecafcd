import DocStore.Value.Canonical
import DocStore.SortedMap.Basic

/-!
Contract: the keys under which an index lists documents.

Every value but an array has a key. Keys of one kind stand together, nulls
first, then truth values, numbers, strings and objects. Numbers are in numeric
order with NaN last and the zeros are one key; strings are in their own order;
objects are keyed by their canonical keys.

Owns: `IndexKey`, its order and the laws that make it the key of a sorted map.
-/

namespace DocStore

/-- A number in which negative zero does not occur, so that its rank determines it. -/
structure NumberKey where
  number : Number
  normal : number.withoutNegativeZero = number
deriving DecidableEq

namespace NumberKey

theorem withoutNegativeZero_idempotent (number : Number) :
    number.withoutNegativeZero.withoutNegativeZero = number.withoutNegativeZero := by
  cases number with
  | nan => rfl
  | infinite negative => rfl
  | finite negative position =>
      by_cases atZero : position.val = 0
      · simp [Number.withoutNegativeZero, atZero, Number.zero]
      · simp [Number.withoutNegativeZero, atZero]

/-- The key of a number; negative zero is read as zero. -/
def ofNumber (number : Number) : NumberKey :=
  ⟨number.withoutNegativeZero, withoutNegativeZero_idempotent number⟩

/-- A normal number is determined by its place in numeric order. -/
theorem eq_of_rank_eq {left right : NumberKey} (same : left.number.rank = right.number.rank) :
    left = right := by
  obtain ⟨leftNumber, leftNormal⟩ := left
  obtain ⟨rightNumber, rightNormal⟩ := right
  have sizePositive : (0 : Int) < Number.gridSize := by decide
  have bound : ∀ position : Fin Number.gridSize, (position.val : Int) < Number.gridSize :=
    fun position => by exact_mod_cast position.isLt
  have signless : ∀ (negative : Bool) (position : Fin Number.gridSize),
      (Number.finite negative position).withoutNegativeZero = .finite negative position →
        position.val = 0 → negative = false := by
    intro negative position normal atZero
    simp only [Number.withoutNegativeZero, atZero, reduceIte, Number.zero] at normal
    injection normal with sign _
    exact sign.symm
  suffices leftNumber = rightNumber by subst this; rfl
  simp only at same
  cases leftNumber with
  | nan =>
      cases rightNumber with
      | nan => rfl
      | infinite negative => cases negative <;> simp only [Number.rank] at same <;> omega
      | finite negative position =>
          have below := bound position
          cases negative <;> simp only [Number.rank] at same <;> omega
  | infinite leftNegative =>
      cases rightNumber with
      | nan => cases leftNegative <;> simp only [Number.rank] at same <;> omega
      | infinite rightNegative =>
          cases leftNegative <;> cases rightNegative <;> simp only [Number.rank] at same <;>
            first | rfl | omega
      | finite rightNegative position =>
          have below := bound position
          cases leftNegative <;> cases rightNegative <;> simp only [Number.rank] at same <;> omega
  | finite leftNegative leftPosition =>
      have leftBelow := bound leftPosition
      cases rightNumber with
      | nan => cases leftNegative <;> simp only [Number.rank] at same <;> omega
      | infinite rightNegative =>
          cases leftNegative <;> cases rightNegative <;> simp only [Number.rank] at same <;> omega
      | finite rightNegative rightPosition =>
          have leftSignless := signless leftNegative leftPosition leftNormal
          have rightSignless := signless rightNegative rightPosition rightNormal
          cases leftNegative <;> cases rightNegative <;> simp only [Number.rank] at same
          · have samePosition : leftPosition = rightPosition := Fin.ext (by omega)
            rw [samePosition]
          · have atZero : rightPosition.val = 0 := by omega
            exact absurd (rightSignless atZero) (by decide)
          · have atZero : leftPosition.val = 0 := by omega
            exact absurd (leftSignless atZero) (by decide)
          · have samePosition : leftPosition = rightPosition := Fin.ext (by omega)
            rw [samePosition]

end NumberKey

/-- The key of a value in an index. -/
inductive IndexKey where
  | null
  | bool (value : Bool)
  | number (key : NumberKey)
  | string (text : String)
  | object (canonicalKey : String)
deriving DecidableEq

namespace IndexKey

/-- The key of a value; arrays have none. -/
def ofValue? : Value → Option IndexKey
  | .null => some null
  | .bool value => some (bool value)
  | .number value => some (number (.ofNumber value))
  | .string text => some (string text)
  | .object fields => some (object (Value.object fields).canonicalKey)
  | .array _ => none

def isNumber : IndexKey → Bool
  | number _ => true
  | _ => false

def isString : IndexKey → Bool
  | string _ => true
  | _ => false

/-! ## Order -/

/-- The place of the kind of a key. -/
def division : IndexKey → Nat
  | null => 0
  | bool _ => 1
  | number _ => 2
  | string _ => 3
  | object _ => 4

/-- The place of a key among the keys of its kind, as far as it is a number. -/
def place : IndexKey → Int
  | bool false => 0
  | bool true => 1
  | number key => key.number.rank
  | _ => 0

/-- The place of a key among the keys of its kind, as far as it is a text. -/
def label : IndexKey → String
  | string text => text
  | object canonicalKey => canonicalKey
  | _ => ""

/-- By kind, then by place, then by label. -/
instance : Ord IndexKey where
  compare :=
    compareLex (compareOn division) (compareLex (compareOn place) (compareOn label))

instance : Std.TransOrd IndexKey :=
  inferInstanceAs (Std.TransCmp
    (compareLex (compareOn division) (compareLex (compareOn place) (compareOn label))))

instance : Std.LawfulEqOrd IndexKey where
  eq_of_compare := by
    intro left right same
    have parts : compare left.division right.division = .eq ∧
        compare left.place right.place = .eq ∧ compare left.label right.label = .eq := by
      change compareLex (compareOn division) (compareLex (compareOn place) (compareOn label))
        left right = .eq at same
      rw [compareLex_eq_eq, compareLex_eq_eq] at same
      exact same
    obtain ⟨sameDivision, samePlace, sameLabel⟩ := parts
    have sameDivision := Std.LawfulEqOrd.eq_of_compare sameDivision
    have samePlace := Std.LawfulEqOrd.eq_of_compare samePlace
    have sameLabel := Std.LawfulEqOrd.eq_of_compare sameLabel
    cases left with
    | null =>
        cases right with
        | null => rfl
        | _ => simp [division] at sameDivision
    | bool leftValue =>
        cases right with
        | bool rightValue =>
            cases leftValue <;> cases rightValue <;> simp [place] at samePlace ⊢
        | _ => simp [division] at sameDivision
    | number leftKey =>
        cases right with
        | number rightKey => rw [NumberKey.eq_of_rank_eq samePlace]
        | _ => simp [division] at sameDivision
    | string leftText =>
        cases right with
        | string rightText => simpa [label] using sameLabel
        | _ => simp [division] at sameDivision
    | object leftText =>
        cases right with
        | object rightText => simpa [label] using sameLabel
        | _ => simp [division] at sameDivision

end IndexKey

end DocStore
