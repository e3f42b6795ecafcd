import DocStore.Value.Basic
import DocStore.Json.Printer
import DocStore.Number.Rounding

/-!
Contract: values as JSON.

A whole number below `2 ^ 53` becomes an integer, any other finite number a
double, and a non-finite number the string of its name. Reading takes every
number literal to the nearest double. A value can be turned into JSON data or
written at once as compact text.

Owns: both directions between values and JSON data, and the direct writer.
-/

namespace DocStore.Value

/-- The JSON form of a number. -/
def jsonOfNumber (number : Number) : Json :=
  match number.whole? with
  | some value => .integer value
  | none => if number.isFinite then .decimal number else .string number.plainText

/-! ## Data -/

mutual

/-- The JSON data of a value. -/
def toJson : Value → Json
  | null => .null
  | bool value => .bool value
  | number value => jsonOfNumber value
  | string text => .string text
  | array items => .array (itemsToJson items)
  | object fields => .object (fieldsToJson fields)

def itemsToJson : List Value → List Json
  | [] => []
  | item :: rest => item.toJson :: itemsToJson rest

def fieldsToJson : List (String × Value) → List (String × Json)
  | [] => []
  | (key, item) :: rest => (key, item.toJson) :: fieldsToJson rest

end

mutual

/-- The value of JSON data. -/
def ofJson : Json → Value
  | .null => null
  | .bool value => bool value
  | .integer value => number (Number.ofInt value)
  | .decimal value => number value
  | .string text => string text
  | .array items => array (itemsOfJson items)
  | .object members => object (fieldsOfJson members)

def itemsOfJson : List Json → List Value
  | [] => []
  | item :: rest => ofJson item :: itemsOfJson rest

def fieldsOfJson : List (String × Json) → List (String × Value)
  | [] => []
  | (key, item) :: rest => (key, ofJson item) :: fieldsOfJson rest

end

/-! ## Text -/

/-- The JSON text of a number. -/
def numberText (number : Number) : List Char :=
  match number with
  | .finite negative position =>
      match number.whole? with
      | some value => Number.integerText value
      | none => Number.Layout.json.write negative position.val
  | other => Json.quoted other.plainText

mutual

/-- The compact JSON text of a value. -/
def compactChars : Value → List Char
  | null => "null".toList
  | bool value => Json.boolText value
  | number value => numberText value
  | string text => Json.quoted text
  | array [] => ['[', ']']
  | array (item :: rest) => '[' :: (item.compactChars ++ compactItems rest)
  | object [] => ['\x7b', '\x7d']
  | object ((key, item) :: rest) =>
      '\x7b' :: (Json.quoted key ++ ':' :: (item.compactChars ++ compactFields rest))

/-- The items after the first, and the closing bracket. -/
def compactItems : List Value → List Char
  | [] => [']']
  | item :: rest => ',' :: (item.compactChars ++ compactItems rest)

/-- The fields after the first, and the closing brace. -/
def compactFields : List (String × Value) → List Char
  | [] => ['\x7d']
  | (key, item) :: rest =>
      ',' :: (Json.quoted key ++ ':' :: (item.compactChars ++ compactFields rest))

end

def compact (value : Value) : String := String.ofList value.compactChars

end DocStore.Value
