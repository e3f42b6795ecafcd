import DocStore.Request.Basic
import DocStore.Transform.Json

/-!
Contract: pipeline requests as JSON.

A request is a record, its steps are tagged choices. Missing steps mean none,
a missing sort direction means ascending, and a null or missing field of
`DISTINCT` means whole documents.

Owns: both directions for steps and requests.
-/

namespace DocStore

namespace Step

/-- Whether the rest of a counting step is well formed: a list has nothing left in it. -/
def isBare : Json → Bool
  | .array [] | .object _ => true
  | _ => false

/-- A field that may be absent or null. -/
def optionalField? : Option Json → Option (Option String)
  | none => some none
  | some .null => some none
  | some json => json.string?.map some

/-- The single field of a step. -/
def soleField? (name : String) (body : Json) : Option Json := do
  let [content] ← body.record? [name] | none
  content

/-- The step written by JSON data. -/
def ofJson? (json : Json) : Option Step := do
  let (tag, body) ← json.tagged?
  match ← Json.tag? false Tag.all Tag.name tag with
  | .filter => (soleField? "predicate" body >>= Predicate.ofJson?).map filter
  | .map => do
      let operators ← soleField? "operators" body >>= Json.items
      let transforms ← operators.mapM (Transform.ofJson? true)
      some (map transforms)
  | .groupBy => (soleField? "field" body >>= Json.string?).map groupBy
  | .join => do
      let [collection, localField, remoteField, asField] ←
        body.record? ["collection", "localField", "remoteField", "asField"] | none
      let collection ← collection >>= Json.string?
      let localField ← localField >>= Json.string?
      let remoteField ← remoteField >>= Json.string?
      let asField ← asField >>= Json.string?
      some (join ⟨collection, localField, remoteField, asField⟩)
  | .count => if isBare body then some count else none
  | .distinct => do
      let [field] ← body.record? ["field"] | none
      let field ← optionalField? field
      some (distinct field)
  | .limit => (soleField? "count" body >>= Json.count?).map limit
  | .skip => (soleField? "count" body >>= Json.count?).map skip
  | .sort => do
      let [field, ascending] ← body.record? ["field", "ascending"] | none
      let field ← field >>= Json.string?
      let ascending ←
        match ascending with
        | none => some true
        | some json => json.bool?
      some (sort field ascending)

/-- An object with a tag behind its other members. -/
def taggedObject (tag : Tag) (members : List (String × Json)) : Json :=
  .object (members ++ [("type", .string tag.name)])

def toJson : Step → Json
  | filter predicate => taggedObject .filter [("predicate", predicate.toJson)]
  | map transforms => taggedObject .map [("operators", .array (transforms.map Transform.toJson))]
  | groupBy field => taggedObject .groupBy [("field", .string field)]
  | join spec =>
      taggedObject .join
        [("asField", .string spec.asField), ("collection", .string spec.collection),
          ("localField", .string spec.localField), ("remoteField", .string spec.remoteField)]
  | count => taggedObject .count []
  | distinct none => taggedObject .distinct []
  | distinct (some field) => taggedObject .distinct [("field", .string field)]
  | limit bound => taggedObject .limit [("count", .integer bound)]
  | skip bound => taggedObject .skip [("count", .integer bound)]
  | sort field ascending =>
      taggedObject .sort [("ascending", .bool ascending), ("field", .string field)]

/-- The step that stands on its own in a text. -/
def decode (json : Json) : Except Error Step :=
  match ofJson? json with
  | some step => .ok step
  | none => .error .malformedText

end Step

namespace Request

/-- The request written by JSON data, valid or not. -/
def ofJson? (json : Json) : Option Request := do
  let [database, collection, steps] ← json.record? ["database", "collection", "steps"] | none
  let database ← database >>= Json.string?
  let collection ← collection >>= Json.string?
  let steps ←
    match steps with
    | none => some []
    | some json => json.items >>= List.mapM Step.ofJson?
  some ⟨database, collection, steps⟩

def toJson (request : Request) : Json :=
  .object
    [("collection", .string request.collection), ("database", .string request.database),
      ("steps", .array (request.steps.map Step.toJson))]

/-- The valid request written by JSON data. -/
def decode (json : Json) : Except Error Request :=
  match ofJson? json with
  | none => .error .malformedRequest
  | some request =>
      match request.check with
      | .ok () => .ok request
      | .error error => .error error

end Request

end DocStore
