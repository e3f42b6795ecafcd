import DocStore.Document

/-!
Contract: dropping repeated documents.

Documents are first projected: without a field to their fields other than the
key, with a field to that field alone. Of the projected documents the first
with each canonical key is kept.

Owns: `distinct`.
-/

namespace DocStore.Stage

/-- What is compared of a document; a document without the field is left out. -/
def project? (field : Option String) (document : Document) : Option Document :=
  match field with
  | none => some document.withoutKey
  | some field => (document.get? field).map fun value => Document.empty.set field value

/-- Keeps the first of the documents with each canonical key that has not been seen. -/
def firstOccurrences (seen : List String) : List Document → List Document
  | [] => []
  | document :: rest =>
      let key := document.canonicalKey
      if seen.contains key then firstOccurrences seen rest
      else document :: firstOccurrences (key :: seen) rest

/-- The distinct documents of a list, or the distinct values of a field. -/
def distinct (field : Option String) (documents : List Document) : List Document :=
  firstOccurrences [] (documents.filterMap (project? field))

end DocStore.Stage
