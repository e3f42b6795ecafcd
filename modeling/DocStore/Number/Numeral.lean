import DocStore.Number.Rounding

/-!
Contract: reading a number from free text.

A numeral is an optional sign followed by a word for infinity or NaN in any
case, or by digits with at most one point among or around them and an optional
exponent. At least one digit stands before the exponent. The whole text must be
a numeral.

Owns: `Number.ofText?` and the runs of digits that all readers share.
-/

namespace DocStore.Number

def isDigit (character : Char) : Bool := '0' ≤ character && character ≤ '9'

/-- The leading digits of a text and what follows them. -/
def spanDigits (characters : List Char) : List Char × List Char :=
  (characters.takeWhile isDigit, characters.dropWhile isDigit)

/-- An optional sign; the flag tells whether it was a minus. -/
def spanSign : List Char → Bool × List Char
  | '-' :: rest => (true, rest)
  | '+' :: rest => (false, rest)
  | characters => (false, characters)

/-- An exponent part, if one is well formed here: the letter, a sign, at least one digit. -/
def spanExponent? (characters : List Char) : Option (Int × List Char) :=
  match characters with
  | marker :: rest =>
      if marker = 'e' ∨ marker = 'E' then
        let (negative, unsigned) := spanSign rest
        let (digits, remaining) := spanDigits unsigned
        if digits.isEmpty then none
        else
          let size : Int := Nat.ofDigitChars 10 digits 0
          some (if negative then -size else size, remaining)
      else none
  | [] => none

/-- The decimal written by whole digits, fraction digits and an exponent. -/
def Decimal.ofParts (whole fraction : List Char) (exponent : Int) : Decimal :=
  ⟨Nat.ofDigitChars 10 (whole ++ fraction) 0, exponent - fraction.length⟩

/-- Digits with an optional point: whole digits, fraction digits, the rest. -/
def spanFraction (characters : List Char) : List Char × List Char × List Char :=
  let (whole, afterWhole) := spanDigits characters
  match afterWhole with
  | '.' :: rest =>
      let (fraction, remaining) := spanDigits rest
      (whole, fraction, remaining)
  | _ => (whole, [], afterWhole)

/-- A numeral in digits, without its sign. -/
def decimal? (characters : List Char) : Option Decimal :=
  let (whole, fraction, rest) := spanFraction characters
  if whole.isEmpty && fraction.isEmpty then none
  else if rest.isEmpty then some (Decimal.ofParts whole fraction 0)
  else
    match spanExponent? rest with
    | some (exponent, []) => some (Decimal.ofParts whole fraction exponent)
    | _ => none

/-- The number written by a whole text, if the text is a numeral. -/
def ofText? (text : String) : Option Number :=
  let (negative, unsigned) := spanSign text.toList
  match decimal? unsigned with
  | some decimal => some (ofDecimal negative decimal)
  | none =>
      let word := String.ofList (unsigned.map Char.toLower)
      if word = "inf" ∨ word = "infinity" then some (.infinite negative)
      else if word = "nan" then some .nan
      else none

end DocStore.Number
