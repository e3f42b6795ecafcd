/-!
Contract: the numbers that documents hold.

A number is a double-precision value taken as data. The finite values of one
sign are counted upward from zero, so a finite number is a sign and a position
on that grid; both zeros sit at position zero. Order and equality of numbers
are those of integers (`Number.rank`), with every NaN identified and placed
after all other numbers. Powers are written `Nat.pow`, so that they are the same
term whatever instances of `^` a module imports.

Owns: the type, the exact value of a position, comparison.
Does not own: rounding to the grid, arithmetic, or any text form.
-/

namespace DocStore

/-- How many finite doubles of one sign there are: the position of infinity. -/
def Number.gridSize : Nat := 2047 * Nat.pow 2 52

/-- A double-precision number, with all NaNs identified. -/
inductive Number where
  | nan
  | infinite (negative : Bool)
  | finite (negative : Bool) (position : Fin Number.gridSize)
deriving DecidableEq, Repr

namespace Number

/-- Positive zero. -/
def zero : Number := .finite false ⟨0, by decide⟩

instance : Inhabited Number := ⟨zero⟩

theorem gridSize_pos : 0 < gridSize := by decide

/-! ## The exact value of a position -/

/-- How many binary places the least positive double stands behind the point. It does not unfold,
so that no check of a term evaluates a power with this exponent. -/
@[irreducible]
def fractionPlaces : Nat := 1074

/-- Grid spacings are counted in units of `2 ^ -1074`, the least positive double. -/
def unitsPerOne : Nat := Nat.pow 2 fractionPlaces

/-- The binary digits held by a position: a leading one is implied above the first binade. -/
def significand (position : Nat) : Nat :=
  if position < Nat.pow 2 52 then position else Nat.pow 2 52 + position % Nat.pow 2 52

/-- The power of two, in units, that scales the significand of a position. -/
def scale (position : Nat) : Nat := position / Nat.pow 2 52 - 1

/-- The exact value of a position in units of `2 ^ -1074`. -/
def units (position : Nat) : Nat := significand position * Nat.pow 2 (scale position)

/-! ## Order -/

def isNaN : Number → Bool
  | nan => true
  | _ => false

def isFinite : Number → Bool
  | finite _ _ => true
  | _ => false

/-- The place of a number in numeric order. Both zeros share one rank and NaN comes last. -/
def rank : Number → Int
  | nan => gridSize + 1
  | infinite true => -gridSize
  | infinite false => gridSize
  | finite true position => -(position.val : Int)
  | finite false position => position.val

/-- Numeric equality: the zeros are equal and NaN equals nothing. -/
def equals (left right : Number) : Bool :=
  !left.isNaN && !right.isNaN && left.rank == right.rank

/-- Numeric "less than": NaN is below nothing and above nothing. -/
def isLess (left right : Number) : Bool :=
  !left.isNaN && !right.isNaN && decide (left.rank < right.rank)

/-- Numeric "at most": false as soon as one side is NaN. -/
def isAtMost (left right : Number) : Bool :=
  !left.isNaN && !right.isNaN && decide (left.rank ≤ right.rank)

/-- The total order used for sorting: numeric, the zeros tie, NaN ties with NaN and comes last. -/
def compare (left right : Number) : Ordering :=
  Ord.compare left.rank right.rank

/-- Negative zero is read as zero; every other number is left alone. -/
def withoutNegativeZero : Number → Number
  | finite negative position =>
      if position.val = 0 then zero else finite negative position
  | number => number

def abs : Number → Number
  | nan => nan
  | infinite _ => infinite false
  | finite _ position => finite false position

/-! ## Whole numbers -/

/-- The integer a number holds, when it is whole and below `2 ^ 53` in size. -/
def whole? : Number → Option Int
  | finite negative position =>
      let value := units position.val / unitsPerOne
      if units position.val % unitsPerOne = 0 ∧ value < Nat.pow 2 53 then
        some (if negative then -(value : Int) else value)
      else
        none
  | _ => none

end Number

end DocStore
