import DocStore.Number.Basic

/-!
Contract: arithmetic on numbers is that of double-precision hardware.

A number and a machine float exchange their 64-bit pattern; the operations are
the machine's. Nothing in the library depends on what they compute. The greater
and the lesser of two numbers are chosen by their order.

Owns: the exchange of bit patterns, the five operations, `max` and `min`.
-/

namespace DocStore.Number

/-- The bit pattern of a number: sign, then the grid position in the lower 63 bits. -/
def toBits : Number → UInt64
  | nan => 0x7ff8000000000000
  | infinite negative =>
      (if negative then 0x8000000000000000 else 0) + UInt64.ofNat gridSize
  | finite negative position =>
      (if negative then 0x8000000000000000 else 0) + UInt64.ofNat position.val

/-- The number with a bit pattern; every pattern beyond infinity is NaN. -/
def ofBits (bits : UInt64) : Number :=
  let negative := decide (Nat.pow 2 63 ≤ bits.toNat)
  let position := bits.toNat % Nat.pow 2 63
  if below : position < gridSize then .finite negative ⟨position, below⟩
  else if position = gridSize then .infinite negative
  else .nan

def toFloat (number : Number) : Float := Float.ofBits number.toBits

def ofFloat (float : Float) : Number := ofBits float.toBits

def add (left right : Number) : Number := ofFloat (left.toFloat + right.toFloat)

def sub (left right : Number) : Number := ofFloat (left.toFloat - right.toFloat)

def mul (left right : Number) : Number := ofFloat (left.toFloat * right.toFloat)

def div (left right : Number) : Number := ofFloat (left.toFloat / right.toFloat)

def power (base exponent : Number) : Number := ofFloat (Float.pow base.toFloat exponent.toFloat)

/-- The greater of two numbers. NaN gives way to the other side; a tie takes the right side. -/
def max (left right : Number) : Number :=
  if right.isNaN then left else if right.isLess left then left else right

/-- The lesser of two numbers. NaN gives way to the other side; a tie takes the right side. -/
def min (left right : Number) : Number :=
  if right.isNaN then left else if left.isLess right then left else right

end DocStore.Number
