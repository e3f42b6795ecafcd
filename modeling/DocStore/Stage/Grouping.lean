import DocStore.Document
import DocStore.Request.Basic
import DocStore.Text.LetterCase

/-!
Contract: grouping documents by a field.

Documents that hold the field are put into buckets; strings that differ only in
case share one. Buckets appear in the order of their first members, and members
in the order of the input. A group is a document that holds the field's value in
its first member and the list of all its members.

Owns: bucket keys and `groupBy`.
-/

namespace DocStore.Stage

/-- The key under which a value is grouped. -/
def bucketKey : Value → String
  | .string text => "s:" ++ Text.lowercase text
  | other => other.canonicalKey

/-- Documents that share a bucket key, and the value of the first of them. -/
structure Bucket where
  key : String
  value : Value
  members : List Document
deriving Repr

/-- Adds a document to the bucket with its key, or opens a bucket at the end. -/
def addToBucket (key : String) (value : Value) (document : Document) :
    List Bucket → List Bucket
  | [] => [⟨key, value, [document]⟩]
  | bucket :: rest =>
      if bucket.key = key then
        { bucket with members := bucket.members ++ [document] } :: rest
      else bucket :: addToBucket key value document rest

/-- Puts a document into its bucket; a document without the field is left out. -/
def bucketStep (field : String) (buckets : List Bucket) (document : Document) : List Bucket :=
  match document.get? field with
  | some value => addToBucket (bucketKey value) value document buckets
  | none => buckets

/-- The buckets of a document list. -/
def buckets (field : String) (documents : List Document) : List Bucket :=
  documents.foldl (bucketStep field) []

/-- The document that stands for a bucket. -/
def Bucket.toDocument (field : String) (bucket : Bucket) : Document :=
  (Document.empty.set field bucket.value).set membersField
    (.array (bucket.members.map Document.toValue))

/-- Groups documents by the value of a field. -/
def groupBy (field : String) (documents : List Document) : List Document :=
  (buckets field documents).map (Bucket.toDocument field)

end DocStore.Stage
