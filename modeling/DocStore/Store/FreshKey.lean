/-!
Contract: fresh document keys.

A fresh key is a random identifier written as 32 hexadecimal digits in five
groups; one digit tells its version, four, and two bits its variant. The other
122 bits are the number that the key is made from.

Owns: `FreshKey.ofNat`.
-/

namespace DocStore.FreshKey

/-- The last `count` hexadecimal digits of a number. -/
def hexDigits (number : Nat) : Nat → List Char
  | 0 => []
  | count + 1 => hexDigits (number / 16) count ++ [Nat.digitChar (number % 16)]

/-- The key made from a number of 122 bits; higher bits are ignored. -/
def ofNat (number : Nat) : String :=
  let node := hexDigits number 12
  let afterNode := number / Nat.pow 16 12
  let sequence := hexDigits (afterNode % Nat.pow 2 14 + Nat.pow 2 15) 4
  let afterSequence := afterNode / Nat.pow 2 14
  let high := hexDigits afterSequence 3
  let afterHigh := afterSequence / Nat.pow 16 3
  let middle := hexDigits afterHigh 4
  let low := hexDigits (afterHigh / Nat.pow 16 4) 8
  String.ofList
    (low ++ '-' :: (middle ++ '-' :: '4' :: (high ++ '-' :: (sequence ++ '-' :: node))))

/-- A supply of keys, one for every position, beginning with a number. -/
def supply (start : Nat) (position : Nat) : String := ofNat (start + position)

end DocStore.FreshKey
