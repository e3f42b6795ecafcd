import DocStore.Predicate.Basic
import DocStore.Json.Decoding

/-!
Contract: predicates as JSON.

A leaf is a record of `field`, `operatorType` and `value`; a node is a record
of `conjunctionType` and `operators`. Reading tries the leaf first, so a value
that has both shapes is a leaf.

Owns: both directions, and the names of comparisons and connectives.
-/

namespace DocStore

/-- The name of a comparison in requests. -/
def Comparison.name : Comparison → String
  | equals => "EQUALS"
  | notEquals => "NOT_EQUALS"
  | greater => "GREATER_THAN"
  | greaterOrEqual => "GREATER_THAN_EQUALS"
  | smaller => "SMALLER_THAN"
  | smallerOrEqual => "SMALLER_THAN_EQUALS"
  | isIn => "IN"
  | isNotIn => "NOT_IN"
  | contains => "CONTAINS"

/-- The name of a connective in requests. -/
def Connective.name : Connective → String
  | and => "AND"
  | or => "OR"
  | xor => "XOR"
  | nor => "NOR"
  | nand => "NAND"

def Comparison.ofName? (name : String) : Option Comparison :=
  Json.choice? all Comparison.name name

def Connective.ofName? (name : String) : Option Connective :=
  Json.choice? all Connective.name name

/-! ## Leaves -/

/-- The leaf written by a record. -/
def FieldTest.ofJson? (json : Json) : Option FieldTest := do
  let [field, comparison, literal] ← json.record? ["field", "operatorType", "value"] | none
  let field ← field >>= Json.string?
  let comparison ← comparison >>= Json.plainChoice? .nullOnly Comparison.all Comparison.name
  let literal ← literal
  some ⟨field, comparison, Value.ofJson literal⟩

def FieldTest.toJson (test : FieldTest) : Json :=
  .object
    [("field", .string test.field), ("operatorType", .string test.comparison.name),
      ("value", test.literal.toJson)]

namespace Predicate

/-- The connective of a node. -/
def connectiveOf? (json : Json) : Option Connective :=
  Json.plainChoice? .nullOnly Connective.all Connective.name json

/-! ## Trees -/

mutual

/-- The predicate written by JSON data. -/
def ofJson? : Json → Option Predicate
  | .object members =>
      match FieldTest.ofJson? (.object members) with
      | some leaf => some (test leaf)
      | none => do
          let connective ← Entries.find? "conjunctionType" members >>= connectiveOf?
          let operands ← memberOperands? members
          some (join connective operands)
  | .array [connective, operands] => do
      let connective ← connectiveOf? connective
      let operands ← operands? operands
      some (join connective operands)
  | .array items => (FieldTest.ofJson? (.array items)).map test
  | _ => none

/-- The operands among the members of a node. -/
def memberOperands? : List (String × Json) → Option (List Predicate)
  | [] => none
  | (name, item) :: rest => if name = "operators" then operands? item else memberOperands? rest

/-- A list of operands. -/
def operands? : Json → Option (List Predicate)
  | .array items => eachOperand? items
  | _ => none

def eachOperand? : List Json → Option (List Predicate)
  | [] => some []
  | item :: rest => do
      let operand ← ofJson? item
      let others ← eachOperand? rest
      some (operand :: others)

end

mutual

/-- The JSON data of a predicate. -/
def toJson : Predicate → Json
  | test leaf => leaf.toJson
  | join connective operands =>
      .object
        [("conjunctionType", .string connective.name),
          ("operators", .array (operandsToJson operands))]

def operandsToJson : List Predicate → List Json
  | [] => []
  | operand :: rest => operand.toJson :: operandsToJson rest

end

/-- The predicate of a query. -/
def decode (json : Json) : Except Error Predicate :=
  match ofJson? json with
  | some predicate => .ok predicate
  | none => .error .malformedPredicate

end Predicate

end DocStore
