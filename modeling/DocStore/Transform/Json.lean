import DocStore.Transform.Basic
import DocStore.Predicate.Json

/-!
Contract: transforms as JSON.

Transforms and computations are tagged choices. Where one of them stands inside
another tagged choice its tag may also be a number. The content of a tagged
choice may write "no data" as an empty object.

Owns: both directions, and the names of the operations.
-/

namespace DocStore

/-! ## Names -/

def Fold.all : List Fold :=
  [sum, difference, product, quotient, power, root, average, max, min]

def Fold.name : Fold → String
  | sum => "SUM"
  | difference => "SUBS"
  | product => "MULTIPLY"
  | quotient => "DIVIDE"
  | power => "POW"
  | root => "ROOT"
  | average => "AVG"
  | max => "MAX"
  | min => "MIN"

def ArrayOperation.all : List ArrayOperation := Fold.all.map fold ++ [concat]

def ArrayOperation.name : ArrayOperation → String
  | fold operation => operation.name
  | concat => "CONCAT"

def Measure.all : List Measure := [abs, size]

def Measure.name : Measure → String
  | abs => "ABS"
  | size => "SIZE"

def CastTarget.all : List CastTarget := [number, string, boolean]

def CastTarget.name : CastTarget → String
  | number => "NUMBER"
  | string => "STRING"
  | boolean => "BOOLEAN"

/-! ## Computations -/

namespace Computation

/-- The tags of computations. -/
inductive Tag where
  | array
  | single
  | cast
deriving DecidableEq, Repr

def Tag.all : List Tag := [array, single, cast]

def Tag.name : Tag → String
  | array => "ARRAY"
  | single => "SINGLE"
  | cast => "CAST"

/-- The choice without data that a field holds. -/
def option? {Choice : Type} (all : List Choice) (name : Choice → String)
    (json : Option Json) : Option Choice :=
  json.bind (Json.plainChoice? .nullOrEmpty all name)

/-- The computation written by JSON data; `nested` tells that it stands in a tagged choice. -/
def ofJson? (nested : Bool) (json : Json) : Option Computation := do
  let (tag, body) ← json.tagged?
  match ← Json.tag? nested Tag.all Tag.name tag with
  | .array => do
      let [operation, operands] ← body.record? ["operation", "operands"] | none
      let operation ← option? ArrayOperation.all ArrayOperation.name operation
      let operands ← operands >>= Json.items
      some (array operation (Value.itemsOfJson operands))
  | .single => do
      let [measure, field] ← body.record? ["operation", "field"] | none
      let measure ← option? Measure.all Measure.name measure
      let field ← field >>= Json.string?
      some (single measure field)
  | .cast => do
      let [field, target] ← body.record? ["field", "target"] | none
      let field ← field >>= Json.string?
      let target ← option? CastTarget.all CastTarget.name target
      some (cast field target)

def toJson : Computation → Json
  | array operation operands =>
      .object
        [("operands", .array (Value.itemsToJson operands)), ("operation", .string operation.name),
          ("type", .string Tag.array.name)]
  | single measure field =>
      .object
        [("field", .string field), ("operation", .string measure.name),
          ("type", .string Tag.single.name)]
  | cast field target =>
      .object
        [("field", .string field), ("target", .string target.name),
          ("type", .string Tag.cast.name)]

/-- The computation that stands on its own in a text. -/
def decode (json : Json) : Except Error Computation :=
  match ofJson? false json with
  | some computation => .ok computation
  | none => .error .malformedText

end Computation

/-! ## Transforms -/

namespace Transform

/-- The tags of transforms. -/
inductive Tag where
  | addField
  | removeField
deriving DecidableEq, Repr

def Tag.all : List Tag := [addField, removeField]

def Tag.name : Tag → String
  | addField => "ADD_FIELD"
  | removeField => "REMOVE_FIELD"

/-- A guard: absent and null mean that there is none. -/
def guardOfJson? : Option Json → Option (Option Predicate)
  | none => some none
  | some .null => some none
  | some json => (Predicate.ofJson? json).map some

/-- The transform written by JSON data; `nested` tells that it stands in a tagged choice. -/
def ofJson? (nested : Bool) (json : Json) : Option Transform := do
  let (tag, body) ← json.tagged?
  match ← Json.tag? nested Tag.all Tag.name tag with
  | .addField => do
      let [name, guard, operation] ← body.record? ["name", "guard", "operation"] | none
      let name ← name >>= Json.string?
      let guard ← guardOfJson? guard
      let computation ← operation >>= Computation.ofJson? true
      some (addField name guard computation)
  | .removeField => do
      let [name, guard] ← body.record? ["name", "guard"] | none
      let name ← name >>= Json.string?
      let guard ← guardOfJson? guard
      some (removeField name guard)

/-- The member of a guard; without a guard there is none. -/
def guardMember : Option Predicate → List (String × Json)
  | none => []
  | some predicate => [("guard", predicate.toJson)]

def toJson : Transform → Json
  | addField name guard computation =>
      .object (guardMember guard ++
        [("name", .string name), ("operation", computation.toJson),
          ("type", .string Tag.addField.name)])
  | removeField name guard =>
      .object (guardMember guard ++
        [("name", .string name), ("type", .string Tag.removeField.name)])

/-- The transform that stands on its own in a text. -/
def decode (json : Json) : Except Error Transform :=
  match ofJson? false json with
  | some transform => .ok transform
  | none => .error .malformedText

end Transform

end DocStore
