import DocStore.Number.Shortest

/-!
Contract: the two written forms of a number.

Both write a whole number below `2 ^ 53` as an integer and the non-finite
numbers as words. They differ in the layout of everything else: the plain form
never uses an exponent, the JSON form uses one outside a fixed window and marks
a whole number with a fraction.

Owns: the layouts and the plain form. Does not own: JSON values.
-/

namespace DocStore.Number

/-- How the digits of a finite number are laid out. -/
structure Layout where
  /-- Which of two equally near shortest decimals is written. -/
  tie : Tie
  /-- The decimal points that are written positionally; outside them an exponent is used. -/
  positional : Int → Bool
  /-- Whether a number without fraction digits is followed by a point and a zero. -/
  marksWhole : Bool

/-- Plain text: every digit is written out and a tie goes up. -/
def Layout.plain : Layout := ⟨.up, fun _ => true, false⟩

/-- JSON text: positional for decimal exponents from -5 to 15, and a tie goes to the even digit. -/
def Layout.json : Layout := ⟨.even, fun point => decide (-5 < point ∧ point ≤ 16), true⟩

/-- Digits around a decimal point, padded with zeros where the point lies outside them. -/
def Layout.writePositional (layout : Layout) (digits : List Char) (point : Int) : List Char :=
  if point ≤ 0 then
    '0' :: '.' :: (List.replicate point.natAbs '0' ++ digits)
  else if digits.length ≤ point.toNat then
    digits ++ List.replicate (point.toNat - digits.length) '0' ++
      (if layout.marksWhole then ['.', '0'] else [])
  else
    digits.take point.toNat ++ '.' :: digits.drop point.toNat

/-- Digits with a power of ten: one digit, the rest after a point, a signed exponent. -/
def writeScientific (digits : List Char) (point : Int) : List Char :=
  let exponent := point - 1
  let fraction := digits.drop 1
  digits.take 1 ++ (if fraction.isEmpty then [] else '.' :: fraction) ++
    'e' :: (if exponent < 0 then '-' else '+') :: Nat.toDigits 10 exponent.natAbs

/-- The text of a finite number without its sign. -/
def Layout.writePosition (layout : Layout) (position : Nat) : List Char :=
  let decimal := shortest layout.tie position
  let digits := Nat.toDigits 10 decimal.digits
  let point := (digits.length : Int) + decimal.exponent
  if layout.positional point then layout.writePositional digits point
  else writeScientific digits point

/-- The text of a sign and a position. -/
def Layout.write (layout : Layout) (negative : Bool) (position : Nat) : List Char :=
  if negative then '-' :: layout.writePosition position else layout.writePosition position

/-- The text of an integer. -/
def integerText (value : Int) : List Char :=
  if value < 0 then '-' :: Nat.toDigits 10 value.natAbs else Nat.toDigits 10 value.natAbs

/-- The words for the numbers that have no digits. -/
def nonFiniteText : Number → List Char
  | infinite false => "Infinity".toList
  | infinite true => "-Infinity".toList
  | _ => "NaN".toList

/-- Plain text: whole numbers below `2 ^ 53` as integers, everything else in full decimal form. -/
def plainChars (number : Number) : List Char :=
  match number.whole? with
  | some value => integerText value
  | none =>
      match number with
      | finite negative position => Layout.plain.write negative position.val
      | other => nonFiniteText other

def plainText (number : Number) : String := String.ofList number.plainChars

end DocStore.Number
