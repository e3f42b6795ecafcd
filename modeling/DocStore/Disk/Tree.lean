import DocStore.SortedMap.Entries

/-!
Contract: trees of files and directories.

A node is a file with its content or a directory with named entries in the order
of their names. A place is the list of names that leads from a directory to a
node below it. Reading, putting and erasing are recursions over the place.

Owns: `Node` and the three operations at a place.
-/

namespace DocStore

/-- The names that lead from a directory to a node below it. -/
abbrev Place := List String

/-- A file, or a directory with its entries in the order of their names. -/
inductive Node where
  | file (content : ByteArray)
  | directory (entries : List (String × Node))

namespace Node

/-- The entries of a directory; a file has none. -/
def entries : Node → List (String × Node)
  | file _ => []
  | directory entries => entries

def isDirectory : Node → Bool
  | file _ => false
  | directory _ => true

/-- The entry with a name. -/
def child? (name : String) (node : Node) : Option Node := Entries.find? name node.entries

/-- The node at a place. -/
def at? : Place → Node → Option Node
  | [], node => some node
  | name :: rest, node => (node.child? name).bind (at? rest)

/-- Puts a node at a place, with empty directories where something is missing on the way. -/
def put (node : Node) (place : Place) (new : Node) : Node :=
  match place with
  | [] => new
  | name :: rest =>
      let present := (node.child? name).getD (directory [])
      directory (Entries.insert name (present.put rest new) node.entries)

/-- Erases the node at a place, if there is one. -/
def erase : Place → Node → Node
  | [name], directory entries => directory (Entries.erase name entries)
  | name :: rest, directory entries =>
      match Entries.find? name entries with
      | some present => directory (Entries.insert name (erase rest present) entries)
      | none => directory entries
  | _, node => node

end Node

end DocStore
