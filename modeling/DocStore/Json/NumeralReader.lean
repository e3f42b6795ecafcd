import DocStore.Number.Numeral

/-!
Contract: how the parts of a JSON number become a double.

Reading JSON text finds the parts of a literal; which double they stand for is
up to a reader of numerals. One reader rounds the decimal that is written, once.
The reader that the program runs with takes up the leading digits that fit 64
bits, makes a double of them and scales it by powers of ten. Every step of that
is rounded, so the answer may be a neighbour of the nearest double.

Owns: `NumeralReader` and the two readers.
-/

namespace DocStore

open Number (nearestPosition units unitsPerOne gridSize)

/-- A choice of the double that a decimal literal stands for. -/
class NumeralReader where
  /-- The number of a sign, whole digits, fraction digits and an exponent. It is infinite when it
  is out of range. -/
  number (negative : Bool) (whole fraction : List Char) (exponent : Int) : Number

namespace NumeralReader

/-- Rounds the decimal that is written. -/
@[reducible]
def nearest : NumeralReader where
  number negative whole fraction exponent :=
    Number.ofDecimal negative (.ofParts whole fraction exponent)

/-! ## Scaling in steps -/

/-- Takes up digits behind a number as long as the result fits 64 bits, and tells how many digits
were left. -/
def takeDigits (taken : Nat) : List Char → Nat × Nat
  | [] => (taken, 0)
  | digit :: rest =>
      let next := 10 * taken + (digit.toNat - '0'.toNat)
      if next < Nat.pow 2 64 then takeDigits next rest else (taken, rest.length + 1)

/-- The position of a power of ten. -/
def powerPosition (power : Nat) : Nat := nearestPosition (Nat.pow 10 power) 1

/-- One multiplication by a power of ten. -/
def multiplied (position power : Nat) : Nat :=
  nearestPosition (units position * units (powerPosition power)) (unitsPerOne * unitsPerOne)

/-- One division by a power of ten. -/
def divided (position power : Nat) : Nat :=
  nearestPosition (units position) (units (powerPosition power))

/-- The greatest power of ten that is a double. -/
def greatestPower : Nat := 308

/-- Scales the position of a number below `2 ^ 64` by a power of ten. What is divided twice by the
greatest power has become zero if a power is still left. -/
def scaled (position : Nat) (exponent : Int) : Nat :=
  let power := exponent.natAbs
  if 0 ≤ exponent then
    if power ≤ greatestPower then multiplied position power
    else if position = 0 then 0 else gridSize
  else if power ≤ greatestPower then divided position power
  else if power ≤ 2 * greatestPower then
    divided (divided position greatestPower) (power - greatestPower)
  else 0

/-- Scales the leading digits. A whole digit that was left counts as a zero, a fraction digit that
was left is dropped. -/
@[reducible]
def stepwise : NumeralReader where
  number negative whole fraction exponent :=
    let (wholeTaken, wholeLeft) := takeDigits 0 whole
    let (taken, fractionLeft) := takeDigits wholeTaken fraction
    let shift : Int := wholeLeft - (fraction.length - fractionLeft : Nat)
    Number.atPosition negative (scaled (nearestPosition taken 1) (shift + exponent))

/-- The reader that the program runs with. -/
instance : NumeralReader := stepwise

end NumeralReader

end DocStore
