/-!
Contract: text between quotation marks in JSON.

Writing escapes the quotation mark, the backslash and the characters below
space; everything else stands for itself. Reading accepts every escape of the
JSON grammar, surrogate pairs included, and refuses raw control characters and
half pairs.

Owns: both directions, on lists of characters.
-/

namespace DocStore.Json

/-- A hexadecimal digit in lower case. -/
def hexDigit (value : Nat) : Char := Nat.digitChar value

/-- How one character is written between quotation marks. -/
def escaped (character : Char) : List Char :=
  if character = '"' then ['\\', '"']
  else if character = '\\' then ['\\', '\\']
  else if 0x20 ≤ character.toNat then [character]
  else if character = '\x08' then ['\\', 'b']
  else if character = '\x0c' then ['\\', 'f']
  else if character = '\n' then ['\\', 'n']
  else if character = '\r' then ['\\', 'r']
  else if character = '\t' then ['\\', 't']
  else ['\\', 'u', '0', '0', hexDigit (character.toNat / 16), hexDigit (character.toNat % 16)]

/-- A text between quotation marks. -/
def quoted (text : String) : List Char :=
  '"' :: (text.toList.flatMap escaped ++ ['"'])

/-! ## Reading -/

/-- The value of a hexadecimal digit in either case. -/
def hexValue? (character : Char) : Option Nat :=
  if '0' ≤ character ∧ character ≤ '9' then some (character.toNat - 48)
  else if 'a' ≤ character ∧ character ≤ 'f' then some (character.toNat - 87)
  else if 'A' ≤ character ∧ character ≤ 'F' then some (character.toNat - 55)
  else none

/-- The 16-bit unit written by four hexadecimal digits, and what follows. -/
def unit? : List Char → Option (Nat × List Char)
  | first :: second :: third :: fourth :: rest => do
      let a ← hexValue? first
      let b ← hexValue? second
      let c ← hexValue? third
      let d ← hexValue? fourth
      some (((a * 16 + b) * 16 + c) * 16 + d, rest)
  | _ => none

/-- The character written by a unit escape whose marker has been read. A leading half must be
followed at once by the escape of a trailing half. -/
def unitCharacter? (input : List Char) : Option (Char × List Char) := do
  let (unit, rest) ← unit? input
  if 0xDC00 ≤ unit ∧ unit < 0xE000 then none
  else if 0xD800 ≤ unit ∧ unit < 0xDC00 then
    match rest with
    | '\\' :: 'u' :: more => do
        let (second, remaining) ← unit? more
        if 0xDC00 ≤ second ∧ second < 0xE000 then
          some (Char.ofNat (0x10000 + (unit - 0xD800) * 0x400 + (second - 0xDC00)), remaining)
        else none
    | _ => none
  else some (Char.ofNat unit, rest)

/-- The character written by an escape whose backslash has been read. -/
def escapeCharacter? : List Char → Option (Char × List Char)
  | '"' :: rest => some ('"', rest)
  | '\\' :: rest => some ('\\', rest)
  | '/' :: rest => some ('/', rest)
  | 'b' :: rest => some ('\x08', rest)
  | 'f' :: rest => some ('\x0c', rest)
  | 'n' :: rest => some ('\n', rest)
  | 'r' :: rest => some ('\r', rest)
  | 't' :: rest => some ('\t', rest)
  | 'u' :: rest => unitCharacter? rest
  | _ => none

/-- The characters up to the closing quotation mark, and what follows it. The fuel bounds the
number of characters; any number from the length of the input on is enough. -/
def unquote? : Nat → List Char → Option (List Char × List Char)
  | 0, _ => none
  | _ + 1, [] => none
  | _ + 1, '"' :: rest => some ([], rest)
  | fuel + 1, '\\' :: rest => do
      let (character, remaining) ← escapeCharacter? rest
      let (characters, final) ← unquote? fuel remaining
      some (character :: characters, final)
  | fuel + 1, character :: rest =>
      if character.toNat < 0x20 then none
      else do
        let (characters, final) ← unquote? fuel rest
        some (character :: characters, final)

end DocStore.Json
