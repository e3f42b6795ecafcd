import DocStore.Text.Split

/-!
Contract: paths as they are written.

A location is the list of pieces between the slashes of a path. Idle pieces, the
empty one and the single dot, stay where they are; two dots lead one directory
up. Nothing here looks at a disk.

Owns: `Location`, its written form and its parts.
-/

namespace DocStore

/-- A path as it is written: the pieces between its slashes. -/
structure Location where
  pieces : List String
deriving DecidableEq, Repr

namespace Location

def ofText (text : String) : Location := ⟨Text.splitAt '/' text⟩

/-- The path in writing. -/
def text (location : Location) : String :=
  String.ofList (Text.joined '/' (location.pieces.map String.toList))

/-- The length of the path in bytes: that of its pieces and of the slashes between them. -/
def byteSize (location : Location) : Nat :=
  location.pieces.foldr (fun piece size => piece.utf8ByteSize + size)
    (location.pieces.length - 1)

/-- Whether a piece leaves the directory as it is. -/
def isIdle (piece : String) : Bool := piece == "" || piece == "."

/-- A name below a location; a name that begins with a slash stands for itself. -/
def child (location : Location) (name : String) : Location :=
  let below := Text.splitAt '/' name
  if 1 < below.length ∧ below.head? = some "" then ⟨below⟩
  else if location.pieces.getLast? = some "" then ⟨location.pieces.dropLast ++ below⟩
  else ⟨location.pieces ++ below⟩

/-- The location without slashes at its end; the root keeps its own. -/
def withoutEndSlashes (location : Location) : Location :=
  let pieces := (location.pieces.reverse.dropWhile (· == "")).reverse
  if pieces.isEmpty then location else ⟨pieces⟩

end Location

end DocStore
