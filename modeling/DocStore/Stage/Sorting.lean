import DocStore.Document
import DocStore.Value.Order

/-!
Contract: sorting documents by a field.

Documents are ordered by the value of one field, a missing value counting as
least. The sort is stable in both directions.

Owns: `sort`.
-/

namespace DocStore.Stage

/-- The order of two documents by a field, in a direction. -/
def compareBy (field : String) (ascending : Bool) (left right : Document) : Ordering :=
  if ascending then Value.compareOptional (left.get? field) (right.get? field)
  else Value.compareOptional (right.get? field) (left.get? field)

/-- Sorts documents by a field; documents that tie keep their order. -/
def sort (field : String) (ascending : Bool) (documents : List Document) : List Document :=
  documents.mergeSort fun left right => (compareBy field ascending left right).isLE

end DocStore.Stage
