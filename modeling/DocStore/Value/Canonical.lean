import DocStore.Value.Basic
import DocStore.Json.Quoted
import DocStore.Number.Text

/-!
Contract: the canonical text of a value.

Numbers are written in plain form, strings are quoted, containers are compact
and objects in key order. The canonical key is that text behind the letter of
the kind; values are identified by it. The display text drops the quotation
marks of a string that stands alone.

Owns: `Value.canonical`, `Value.canonicalKey`, `Value.displayText`.
-/

namespace DocStore.Value

mutual

/-- The canonical text of a value. -/
def canonicalChars : Value → List Char
  | null => "null".toList
  | bool value => if value then "true".toList else "false".toList
  | number value => value.plainChars
  | string text => Json.quoted text
  | array [] => ['[', ']']
  | array (item :: rest) => '[' :: (item.canonicalChars ++ canonicalItems rest)
  | object [] => ['\x7b', '\x7d']
  | object ((key, item) :: rest) =>
      '\x7b' :: (Json.quoted key ++ ':' :: (item.canonicalChars ++ canonicalFields rest))

/-- The items after the first, and the closing bracket. -/
def canonicalItems : List Value → List Char
  | [] => [']']
  | item :: rest => ',' :: (item.canonicalChars ++ canonicalItems rest)

/-- The fields after the first, and the closing brace. -/
def canonicalFields : List (String × Value) → List Char
  | [] => ['\x7d']
  | (key, item) :: rest =>
      ',' :: (Json.quoted key ++ ':' :: (item.canonicalChars ++ canonicalFields rest))

end

def canonical (value : Value) : String := String.ofList value.canonicalChars

/-- The canonical text marked with the kind of the value. -/
def canonicalKey (value : Value) : String :=
  String.ofList (value.kind.tag :: ':' :: value.canonicalChars)

/-- The text of a value inside other text: a string as it is, anything else canonically. -/
def displayText : Value → String
  | string text => text
  | other => other.canonical

end DocStore.Value
