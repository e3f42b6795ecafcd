import DocStore.Number.Rounding

/-!
Contract: the fewest decimal digits that read back to a given double.

For one digit, two digits and so on up to seventeen, the two neighbours of the
exact value on that decimal grid are tried; the first grid with a neighbour
that rounds back to the same position wins. Of two such neighbours the nearer
is taken, and a tie between them is the caller's choice. Whether a candidate
reads back is decided by the reader of decimals itself, so the answer reads
back by construction.

Owns: the digit search. Does not own: any layout of digits as text.
-/

namespace DocStore.Number

/-- Which of two equally near neighbours is taken. -/
inductive Tie where
  | even
  | up
deriving DecidableEq, Repr

/-- The exact value of a position measured in steps of `10 ^ exponent`, as a ratio. -/
def inSteps (position : Nat) (exponent : Int) : Nat × Nat :=
  if 0 ≤ exponent then
    (units position, unitsPerOne * Nat.pow 10 exponent.toNat)
  else
    (units position * Nat.pow 10 exponent.natAbs, unitsPerOne)

/-- Whether the exact value of a position is below `10 ^ exponent`. -/
def isBelowPower (position : Nat) (exponent : Int) : Bool :=
  let (numerator, denominator) := inSteps position exponent
  numerator < denominator

/-- The decimal point of a positive position: the least `point` with value below `10 ^ point`. A
value between two neighbouring powers of two leaves two candidates, and `30103 / 100000` is the
logarithm of two closely enough to find the lower one. -/
def decimalPoint (position : Nat) : Int :=
  let binary := (Nat.log2 (units position) : Int) - fractionPlaces
  let lower := Int.fdiv (binary * 30103) 100000 + 1
  if isBelowPower position lower then lower else lower + 1

/-- A decimal that reads back to the position it is written for. -/
def Decimal.readsBackTo (decimal : Decimal) (position : Nat) : Bool :=
  decimal.position == position

/-- The better of the two neighbours with `count` digits, if one reads back. -/
def neighbour? (tie : Tie) (position : Nat) (point : Int) (count : Nat) : Option Decimal :=
  let exponent := point - count
  let (numerator, denominator) := inSteps position exponent
  let quotient := numerator / denominator
  let remainder := numerator % denominator
  let below : Decimal := ⟨quotient, exponent⟩
  let above : Decimal :=
    if quotient + 1 = Nat.pow 10 count then ⟨1, point⟩ else ⟨quotient + 1, exponent⟩
  let prefersAbove :=
    denominator < 2 * remainder ∨
      (2 * remainder = denominator ∧ (tie = .up ∨ quotient % 2 = 1))
  match below.readsBackTo position, above.readsBackTo position with
  | true, true => some (if prefersAbove then above else below)
  | true, false => some below
  | false, true => some above
  | false, false => none

/-- Tries digit counts upward. The exact value closes the search, so every position is answered. -/
def searchFrom (tie : Tie) (position : Nat) (point : Int) (count : Nat) : Nat → Decimal
  | 0 => ⟨units position * Nat.pow 5 fractionPlaces, -fractionPlaces⟩
  | attempts + 1 =>
      match neighbour? tie position point count with
      | some decimal => decimal
      | none => searchFrom tie position point (count + 1) attempts

/-- The shortest decimal that reads back to a position. -/
def shortest (tie : Tie) (position : Nat) : Decimal :=
  if position = 0 then ⟨0, 0⟩
  else searchFrom tie position (decimalPoint position) 1 17

end DocStore.Number
