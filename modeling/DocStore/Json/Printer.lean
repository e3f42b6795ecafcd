import DocStore.Json.Basic
import DocStore.Json.Quoted
import DocStore.Number.Text

/-!
Contract: the two written forms of JSON data.

The compact form has no blanks. The pretty form puts every item and member on a
line of its own, two spaces deeper than its container, and leaves empty
containers closed.

Owns: `Json.compact`, `Json.pretty`.
-/

namespace DocStore.Json

/-- The text of a double: digits in the JSON layout, or null for a non-finite number. -/
def decimalText : Number → List Char
  | .finite negative position => Number.Layout.json.write negative position.val
  | _ => "null".toList

/-- The text of a truth value. -/
def boolText (value : Bool) : List Char := if value then "true".toList else "false".toList

/-! ## Compact form -/

mutual

/-- The compact text of a value. -/
def compactChars : Json → List Char
  | null => "null".toList
  | bool value => boolText value
  | integer value => Number.integerText value
  | decimal value => decimalText value
  | string text => quoted text
  | array [] => ['[', ']']
  | array (item :: rest) => '[' :: (item.compactChars ++ compactItems rest)
  | object [] => ['\x7b', '\x7d']
  | object ((key, item) :: rest) =>
      '\x7b' :: (quoted key ++ ':' :: (item.compactChars ++ compactMembers rest))

/-- The items after the first, and the closing bracket. -/
def compactItems : List Json → List Char
  | [] => [']']
  | item :: rest => ',' :: (item.compactChars ++ compactItems rest)

/-- The members after the first, and the closing brace. -/
def compactMembers : List (String × Json) → List Char
  | [] => ['\x7d']
  | (key, item) :: rest =>
      ',' :: (quoted key ++ ':' :: (item.compactChars ++ compactMembers rest))

end

def compact (json : Json) : String := String.ofList json.compactChars

/-! ## Pretty form -/

/-- A new line at a nesting depth. -/
def newLine (depth : Nat) : List Char := '\n' :: List.replicate (2 * depth) ' '

mutual

/-- The pretty text of a value that stands at a nesting depth. -/
def prettyChars (depth : Nat) : Json → List Char
  | array (item :: rest) =>
      '[' :: (newLine (depth + 1) ++ (item.prettyChars (depth + 1) ++ prettyItems depth rest))
  | object ((key, item) :: rest) =>
      '\x7b' :: (newLine (depth + 1) ++ (quoted key ++
        ':' :: ' ' :: (item.prettyChars (depth + 1) ++ prettyMembers depth rest)))
  | scalarOrEmpty => scalarOrEmpty.compactChars

/-- The items after the first, and the closing bracket on a line of its own. -/
def prettyItems (depth : Nat) : List Json → List Char
  | [] => newLine depth ++ [']']
  | item :: rest =>
      ',' :: (newLine (depth + 1) ++ (item.prettyChars (depth + 1) ++ prettyItems depth rest))

/-- The members after the first, and the closing brace on a line of its own. -/
def prettyMembers (depth : Nat) : List (String × Json) → List Char
  | [] => newLine depth ++ ['\x7d']
  | (key, item) :: rest =>
      ',' :: (newLine (depth + 1) ++ (quoted key ++
        ':' :: ' ' :: (item.prettyChars (depth + 1) ++ prettyMembers depth rest)))

end

def pretty (json : Json) : String := String.ofList (json.prettyChars 0)

end DocStore.Json
