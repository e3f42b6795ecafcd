import DocStore.Number.Basic

/-!
Contract: rounding an exact quantity to the nearest double.

Every reader of numbers goes through `Number.nearestPosition`, which rounds a
ratio of naturals to the nearest grid position, a tie going to the even one.
Integers and decimals are ratios, so nothing here is approximate before the
one rounding.

Owns: nearest positions, numbers from ratios, integers and decimals.
-/

namespace DocStore.Number

/-- The grid position nearest to `numerator / denominator`; a tie goes to the even position.
Positions at or beyond `gridSize` stand for infinity. -/
def nearestPosition (numerator denominator : Nat) : Nat :=
  let scaled := numerator * unitsPerOne
  let shift := Nat.log2 (scaled / denominator) - 52
  let spacing := denominator * Nat.pow 2 shift
  let quotient := scaled / spacing
  let remainder := scaled % spacing
  let roundsUp := spacing < 2 * remainder ∨ (2 * remainder = spacing ∧ quotient % 2 = 1)
  shift * Nat.pow 2 52 + quotient + (if roundsUp then 1 else 0)

/-- The number at a grid position, infinite from `gridSize` on. -/
def atPosition (negative : Bool) (position : Nat) : Number :=
  if below : position < gridSize then .finite negative ⟨position, below⟩ else .infinite negative

/-- The number nearest to a signed ratio. -/
def ofRatio (negative : Bool) (numerator denominator : Nat) : Number :=
  atPosition negative (nearestPosition numerator denominator)

/-- The number nearest to an integer. -/
def ofInt (value : Int) : Number :=
  ofRatio (decide (value < 0)) value.natAbs 1

/-- The number nearest to a natural number. -/
def ofNat (value : Nat) : Number := ofRatio false value 1

/-- A non-negative decimal: `digits * 10 ^ exponent`. -/
structure Decimal where
  digits : Nat
  exponent : Int
deriving DecidableEq, Repr

/-- The grid position nearest to a decimal. The two early cases are decided by size alone:
beyond `10 ^ 400` everything is infinite, and below `2 ^ -1099` everything is zero. -/
def Decimal.position (decimal : Decimal) : Nat :=
  if decimal.digits = 0 then 0
  else if 400 < decimal.exponent then gridSize
  else if 0 ≤ decimal.exponent then
    nearestPosition (decimal.digits * Nat.pow 10 decimal.exponent.toNat) 1
  else if decimal.digits.log2 + 1100 < 3 * decimal.exponent.natAbs then 0
  else nearestPosition decimal.digits (Nat.pow 10 decimal.exponent.natAbs)

/-- The number nearest to a signed decimal. -/
def ofDecimal (negative : Bool) (decimal : Decimal) : Number :=
  atPosition negative decimal.position

end DocStore.Number
