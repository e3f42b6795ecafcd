import DocStore.Value.Basic
import DocStore.Text.Split

/-!
Contract: reading and writing inside values by dotted paths.

A path is cut at its dots into segments. A segment is a key on objects and an
index on arrays. Reading an empty path finds nothing. Writing creates objects
where a segment is missing or meets a scalar, and leaves an array alone unless
the segment is an index inside it; removal takes an item out of its array.

All three are recursions over the segments; the field list of a document takes
part as the outermost object.

Owns: segments, `Value.get?`, `Value.set`, `Value.remove?` and their
counterparts on field lists.
-/

namespace DocStore

namespace Path

/-- The segments of a path: the pieces between its dots. -/
def segments (path : String) : List String := Text.splitAt '.' path

/-- The array index a segment writes: digits after an optional plus sign, below `2 ^ 64`. -/
def index? (segment : String) : Option Nat :=
  let digits :=
    match segment.toList with
    | '+' :: rest => rest
    | characters => characters
  if digits.isEmpty || !digits.all Char.isDigit then none
  else
    let index := Nat.ofDigitChars 10 digits 0
    if index < Nat.pow 2 64 then some index else none

end Path

namespace Value

/-! ## Reading -/

/-- The child of a container under one segment. -/
def child? (segment : String) : Value → Option Value
  | object fields => Entries.find? segment fields
  | array items => (Path.index? segment).bind fun index => items[index]?
  | _ => none

/-- The value reached by following segments. -/
def follow? : List String → Value → Option Value
  | [], value => some value
  | segment :: rest, value => (value.child? segment).bind (follow? rest)

/-- The value reached by the segments of a path; the segments of the empty path reach nothing. -/
def at? (segments : List String) (value : Value) : Option Value :=
  if segments = [""] then none else follow? segments value

/-- The value at a path below this value. -/
def get? (value : Value) (path : String) : Option Value := value.at? (Path.segments path)

/-! ## Writing -/

/-- The fields that a write goes into: those of an object, none for any other value. -/
def fieldsForWriting : Value → Fields
  | object fields => fields
  | _ => []

/-- Writes a value at segments. -/
def put (new : Value) : List String → Value → Value
  | [], _ => new
  | segment :: rest, array items =>
      match Path.index? segment with
      | none => array items
      | some index =>
          match items[index]? with
          | none => array items
          | some item => array (items.set index (put new rest item))
  | segment :: rest, container =>
      let fields := container.fieldsForWriting
      let present := (Entries.find? segment fields).getD (object [])
      object (Entries.insert segment (put new rest present) fields)

/-- Writes a value at a path below this value. -/
def set (value : Value) (path : String) (new : Value) : Value :=
  put new (Path.segments path) value

/-! ## Removal -/

/-- What is taken out at segments and what is left, if anything is there. -/
def detach? : List String → Value → Option (Value × Value)
  | [], _ => none
  | [segment], object fields =>
      (Entries.find? segment fields).map fun removed =>
        (removed, object (Entries.erase segment fields))
  | [segment], array items => do
      let index ← Path.index? segment
      let removed ← items[index]?
      some (removed, array (items.eraseIdx index))
  | segment :: rest, object fields => do
      let present ← Entries.find? segment fields
      let (removed, remaining) ← detach? rest present
      some (removed, object (Entries.insert segment remaining fields))
  | segment :: rest, array items => do
      let index ← Path.index? segment
      let present ← items[index]?
      let (removed, remaining) ← detach? rest present
      some (removed, array (items.set index remaining))
  | _ :: _, _ => none

/-- What is taken out at a path below this value and what is left, if anything is there. -/
def remove? (value : Value) (path : String) : Option (Value × Value) :=
  value.detach? (Path.segments path)

end Value

/-! ## Field lists -/

namespace Fields

/-- The value at a path. After the first field the rest of the path is read as a path of its
own, so a path that ends in a dot finds nothing there. -/
def get? (fields : Fields) (path : String) : Option Value :=
  match Path.segments path with
  | [] => none
  | [segment] => if segment = "" then none else Entries.find? segment fields
  | segment :: rest => (Entries.find? segment fields).bind (Value.at? rest)

/-- Writes a value at a path. -/
def set (fields : Fields) (path : String) (new : Value) : Fields :=
  ((Value.object fields).set path new).fieldsForWriting

/-- What is taken out at a path and the fields that are left, if anything is there. -/
def remove? (fields : Fields) (path : String) : Option (Value × Fields) :=
  ((Value.object fields).remove? path).map fun (removed, remaining) =>
    (removed, remaining.fieldsForWriting)

end Fields

end DocStore
