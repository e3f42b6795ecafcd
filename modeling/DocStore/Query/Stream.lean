import DocStore.Document

/-!
Contract: the documents between two steps.

A pipeline begins without documents. The first step that needs them brings them
in as they are stored; they count as stored until a step reshapes them. Index
answers may be trusted for stored documents only.

Owns: `Stream` and the changes that keep its state.
-/

namespace DocStore

/-- The documents that one step hands to the next. -/
inductive Stream where
  | unread
  | stored (documents : List Document)
  | derived (documents : List Document)
deriving Repr

namespace Stream

def hasDocuments : Stream → Bool
  | unread => false
  | _ => true

def isStored : Stream → Bool
  | stored _ => true
  | _ => false

/-- The documents, unless none have been brought in. -/
def documents? : Stream → Option (List Document)
  | unread => none
  | stored documents | derived documents => some documents

/-- The documents; none if none have been brought in. -/
def documents (stream : Stream) : List Document := stream.documents?.getD []

/-- Changes the documents and keeps the state. -/
def mapDocuments (change : List Document → List Document) : Stream → Stream
  | unread => unread
  | stored documents => stored (change documents)
  | derived documents => derived (change documents)

/-- The name of the state. -/
def stateName : Stream → String
  | unread => "Unseeded"
  | stored _ => "Stored(..)"
  | derived _ => "Derived(..)"

end Stream

end DocStore
