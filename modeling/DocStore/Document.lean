import DocStore.Error
import DocStore.Value.Path
import DocStore.Value.Canonical
import DocStore.Value.Json
import DocStore.Json.Parser

/-!
Contract: documents.

A document is a field list. Its key is the field `_id` when that holds a string.
Fields are read, written and removed by dotted paths.

Owns: `Document` and its operations, JSON in both directions.
-/

namespace DocStore

/-- A document: fields in key order. -/
structure Document where
  fields : Fields := []
deriving Repr, Inhabited

namespace Document

/-- The field that holds the key of a stored document. -/
def keyField : String := "_id"

def empty : Document := ⟨[]⟩

/-- The document as a value. -/
def toValue (document : Document) : Value := .object document.fields

/-- The value at a path. -/
def get? (document : Document) (path : String) : Option Value := document.fields.get? path

/-- Writes a value at a path, creating objects on the way. -/
def set (document : Document) (path : String) (value : Value) : Document :=
  ⟨document.fields.set path value⟩

/-- What is at a path, and the document without it. -/
def remove (document : Document) (path : String) : Option Value × Document :=
  match document.fields.remove? path with
  | some (removed, fields) => (some removed, ⟨fields⟩)
  | none => (none, document)

/-- The key, if the document has one. -/
def key? (document : Document) : Option String :=
  (Entries.find? keyField document.fields).bind Value.string?

def withKey (document : Document) (key : String) : Document :=
  ⟨Entries.insert keyField (.string key) document.fields⟩

def withoutKey (document : Document) : Document := ⟨Entries.erase keyField document.fields⟩

/-- The canonical key of all fields together. -/
def canonicalKey (document : Document) : String := document.toValue.canonicalKey

/-! ## JSON -/

def toJson (document : Document) : Json := document.toValue.toJson

def compact (document : Document) : String := document.toValue.compact

/-- The document of a value, which must be an object. -/
def ofValue : Value → Except Error Document
  | .object fields => .ok ⟨fields⟩
  | other => .error (.notADocument other.kind)

def ofJson (json : Json) : Except Error Document := ofValue (Value.ofJson json)

/-- The document written by a JSON text. -/
def ofText [NumeralReader] (text : String) : Except Error Document :=
  match Json.parse? text with
  | some json => ofJson json
  | none => .error .malformedText

end Document

end DocStore
