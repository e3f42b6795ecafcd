import DocStore.Number.Basic
import DocStore.SortedMap.Entries

/-!
Contract: the values of document fields.

A value is a tree of scalars, arrays and objects. The fields of an object are
an entry list in key order. Kinds are ordered; their order is the order of
values of different kinds.

Owns: the type, kinds, accessors, and equality of trees under numeric equality.
Does not own: paths, texts or the order of values.
-/

namespace DocStore

/-- The kind of a value. -/
inductive Kind where
  | null
  | bool
  | number
  | string
  | array
  | object
deriving DecidableEq, Repr

namespace Kind

/-- The place of a kind in the order of values. -/
def rank : Kind → Nat
  | null => 0
  | bool => 1
  | number => 2
  | string => 3
  | array => 4
  | object => 5

/-- The letter that marks a kind in canonical keys. -/
def tag : Kind → Char
  | null => 'z'
  | bool => 'b'
  | number => 'n'
  | string => 's'
  | array => 'a'
  | object => 'o'

/-- The name of a kind in messages. -/
def name : Kind → String
  | null => "Null"
  | bool => "Bool"
  | number => "Number"
  | string => "String"
  | array => "Array"
  | object => "Object"

end Kind

/-- A field value. -/
inductive Value where
  | null
  | bool (value : Bool)
  | number (value : Number)
  | string (text : String)
  | array (items : List Value)
  | object (fields : List (String × Value))
deriving Repr, Inhabited

/-- The fields of an object or a document, in key order. -/
abbrev Fields := List (String × Value)

namespace Value

def kind : Value → Kind
  | null => .null
  | bool _ => .bool
  | number _ => .number
  | string _ => .string
  | array _ => .array
  | object _ => .object

/-- Everything but arrays and objects. -/
def isScalar : Value → Bool
  | array _ | object _ => false
  | _ => true

def number? : Value → Option Number
  | number value => some value
  | _ => none

def string? : Value → Option String
  | string text => some text
  | _ => none

/-! ## Equality of trees -/

mutual

/-- Equality of two trees in which numbers are compared numerically: the zeros are equal, and a
tree that holds NaN equals nothing. -/
def equals : Value → Value → Bool
  | null, null => true
  | bool left, bool right => left == right
  | number left, number right => left.equals right
  | string left, string right => left == right
  | array left, array right => itemsEqual left right
  | object left, object right => fieldsEqual left right
  | _, _ => false

def itemsEqual : List Value → List Value → Bool
  | [], [] => true
  | left :: leftRest, right :: rightRest => left.equals right && itemsEqual leftRest rightRest
  | _, _ => false

def fieldsEqual : List (String × Value) → List (String × Value) → Bool
  | [], [] => true
  | (leftKey, left) :: leftRest, (rightKey, right) :: rightRest =>
      leftKey == rightKey && left.equals right && fieldsEqual leftRest rightRest
  | _, _ => false

end

end Value

end DocStore
