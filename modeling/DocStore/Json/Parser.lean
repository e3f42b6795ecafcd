import DocStore.Json.Basic
import DocStore.Json.Quoted
import DocStore.Json.NumeralReader

/-!
Contract: reading JSON text.

The grammar is the standard one, without extensions. A text is refused when
containers are nested too deeply, when a number is too large for a double, or
when anything but blanks follows the value. Integers that fit 64 bits stay
integers; a negative zero, larger integers and decimals become the doubles that
the reader of numerals chooses. Of several members with one key the last one
stays.

Owns: `Json.parse?`, with the nesting limit as a parameter.
-/

namespace DocStore.Json

/-- How many containers may be nested in a text that is read from a user or a file. -/
def nestingLimit : Nat := 127

/-- The characters that may stand between tokens. -/
def isGap (character : Char) : Bool :=
  character = ' ' || character = '\n' || character = '\t' || character = '\r'

def skipGap (input : List Char) : List Char := input.dropWhile isGap

/-! ## Numbers -/

variable [NumeralReader]

/-- The number written by an integer literal: an integer where 64 bits suffice, else a double. -/
def ofIntegerLiteral? (negative : Bool) (digits : List Char) : Option Json :=
  let size := Nat.ofDigitChars 10 digits 0
  if negative then
    if 0 < size ∧ size ≤ Nat.pow 2 63 then some (integer (-(size : Int)))
    else finite? (NumeralReader.number true digits [] 0)
  else if size < Nat.pow 2 64 then some (integer size)
  else finite? (NumeralReader.number false digits [] 0)
where
  finite? (number : Number) : Option Json :=
    if number.isFinite then some (decimal number) else none

/-- A fraction part, if the input has one: its digits and what follows. A point without digits
is an error, told apart from a missing fraction by the outer option. -/
def fraction? : List Char → Option (Option (List Char) × List Char)
  | '.' :: rest =>
      let (digits, remaining) := Number.spanDigits rest
      if digits.isEmpty then none else some (some digits, remaining)
  | input => some (none, input)

/-- An exponent part, if the input has one. A marker without digits is an error. -/
def exponent? (input : List Char) : Option (Option Int × List Char) :=
  match input with
  | marker :: _ =>
      if marker = 'e' ∨ marker = 'E' then do
        let (exponent, rest) ← Number.spanExponent? input
        some (some exponent, rest)
      else some (none, input)
  | [] => some (none, input)

/-- A number literal without its sign. A leading zero stands alone. -/
def unsigned? (negative : Bool) (input : List Char) : Option (Json × List Char) := do
  let (whole, afterWhole) := Number.spanDigits input
  if whole.isEmpty || (whole.head? == some '0' && 1 < whole.length) then none
  else
    let (fraction, afterFraction) ← fraction? afterWhole
    let (exponent, rest) ← exponent? afterFraction
    match fraction, exponent with
    | none, none => do
        let json ← ofIntegerLiteral? negative whole
        some (json, rest)
    | _, _ =>
        let number := NumeralReader.number negative whole (fraction.getD []) (exponent.getD 0)
        if number.isFinite then some (decimal number, rest) else none

/-- A number literal. -/
def number? : List Char → Option (Json × List Char)
  | '-' :: rest => unsigned? true rest
  | input => unsigned? false input

/-! ## Values -/

mutual

/-- One value and what follows it. The fuel bounds the number of steps and the length of each text
read on the way, so twice the length of the input is enough; `levels` is the number of containers
that may still be opened. -/
def value? : Nat → Nat → List Char → Option (Json × List Char)
  | 0, _, _ => none
  | fuel + 1, levels, input =>
      match skipGap input with
      | 'n' :: 'u' :: 'l' :: 'l' :: rest => some (null, rest)
      | 't' :: 'r' :: 'u' :: 'e' :: rest => some (bool true, rest)
      | 'f' :: 'a' :: 'l' :: 's' :: 'e' :: rest => some (bool false, rest)
      | '"' :: rest => do
          let (characters, remaining) ← unquote? fuel rest
          some (string (String.ofList characters), remaining)
      | '[' :: rest =>
          match levels with
          | 0 => none
          | inner + 1 =>
              match skipGap rest with
              | ']' :: remaining => some (array [], remaining)
              | _ => do
                  let (items, remaining) ← items? fuel inner rest
                  some (array items, remaining)
      | '\x7b' :: rest =>
          match levels with
          | 0 => none
          | inner + 1 =>
              match skipGap rest with
              | '\x7d' :: remaining => some (object [], remaining)
              | _ => do
                  let (members, remaining) ← members? fuel inner rest
                  some (object (Entries.ofList members), remaining)
      | other => number? other

/-- One or more items and the closing bracket. -/
def items? : Nat → Nat → List Char → Option (List Json × List Char)
  | 0, _, _ => none
  | fuel + 1, levels, input => do
      let (item, afterItem) ← value? fuel levels input
      match skipGap afterItem with
      | ',' :: rest => do
          let (items, remaining) ← items? fuel levels rest
          some (item :: items, remaining)
      | ']' :: remaining => some ([item], remaining)
      | _ => none

/-- One or more members and the closing brace. -/
def members? : Nat → Nat → List Char → Option (List (String × Json) × List Char)
  | 0, _, _ => none
  | fuel + 1, levels, input =>
      match skipGap input with
      | '"' :: afterQuote => do
          let (characters, afterKey) ← unquote? fuel afterQuote
          match skipGap afterKey with
          | ':' :: afterColon => do
              let (item, afterItem) ← value? fuel levels afterColon
              let entry := (String.ofList characters, item)
              match skipGap afterItem with
              | ',' :: rest => do
                  let (members, remaining) ← members? fuel levels rest
                  some (entry :: members, remaining)
              | '\x7d' :: remaining => some ([entry], remaining)
              | _ => none
          | _ => none
      | _ => none

end

/-- The value written by a whole text, with at most `levels` nested containers. -/
def parseWithin? (levels : Nat) (text : String) : Option Json := do
  let input := text.toList
  let (json, rest) ← value? (2 * input.length + 1) levels input
  if (skipGap rest).isEmpty then some json else none

/-- The value written by a whole text, within the nesting limit. -/
def parse? (text : String) : Option Json := parseWithin? nestingLimit text

end DocStore.Json
