import DocStore.Error
import DocStore.Disk.Location
import DocStore.Disk.Tree

/-!
Contract: a disk as data.

A disk is the tree of files and directories below the working directory.
Resolving a location walks the directories it names and ends at a place. The
four actions that change a disk either succeed as a whole or leave it as it was
and name their fault.

Owns: `Disk`, resolving, what can be read off a disk, and its actions.
-/

namespace DocStore

/-- A disk: what stands directly below the working directory. -/
structure Disk where
  entries : List (String × Node)

namespace Disk

def empty : Disk := ⟨[]⟩

instance : Inhabited Disk := ⟨empty⟩

/-- The working directory. -/
def root (disk : Disk) : Node := .directory disk.entries

/-- What stands at a place; the working directory itself is always there. -/
def node? (disk : Disk) (place : Place) : Option Node := disk.root.at? place

/-- The disk with a node at a place. -/
def put (disk : Disk) (place : Place) (node : Node) : Disk := ⟨(disk.root.put place node).entries⟩

/-- The disk without what stands at a place. -/
def erase (disk : Disk) (place : Place) : Disk := ⟨(disk.root.erase place).entries⟩

/-! ## Resolving -/

/-- The longest file name in bytes. -/
def nameLimit : Nat := 255

/-- The longest path in bytes, as it is written. -/
def pathLimit : Nat := 4095

/-- Checks that a location can be asked for at all. -/
def checkLocation (location : Location) : Except DiskFault Unit :=
  if location.pieces.any fun piece => piece.toList.contains '\x00' then .error .invalidName
  else if location.pieces = [""] then .error .notFound
  else if pathLimit < location.byteSize then .error .nameTooLong
  else .ok ()

/-- A directory on a walk, behind the names walked so far. The last name comes first, and every
name is held with the directory it was found in. -/
abbrev Trail := List (String × Node)

/-- The place that a trail leads to. -/
def Trail.place (trail : Trail) : Place := (trail.map Prod.fst).reverse

/-- Ends a walk at a place behind which only idle pieces are left. With any of them the place
cannot be a file, and with a dot among them it must be there. -/
def arrive (place : Place) (found : Option Node) (idle : List String) : Except DiskFault Place :=
  match idle, found with
  | [], _ => .ok place
  | _, some (.directory _) => .ok place
  | _, some (.file _) => .error .notADirectory
  | _, none => if idle.contains "." then .error .notFound else .ok place

/-- Walks pieces from the directory `here`. Every piece but the last must lead to a directory. -/
def walk (trail : Trail) (here : Node) : List String → Except DiskFault Place
  | [] => .ok trail.place
  | piece :: rest =>
      if Location.isIdle piece then walk trail here rest
      else if piece = ".." then
        match trail with
        | [] => walk [] here rest
        | (_, above) :: outer => walk outer above rest
      else if nameLimit < piece.utf8ByteSize then .error .nameTooLong
      else
        let next : Trail := (piece, here) :: trail
        if rest.all Location.isIdle then arrive next.place (here.child? piece) rest
        else
          match here.child? piece with
          | some (.directory entries) => walk next (.directory entries) rest
          | some (.file _) => .error .notADirectory
          | none => .error .notFound

/-- The place that a location names; the empty location names none. -/
def resolve (disk : Disk) (location : Location) : Except DiskFault Place := do
  checkLocation location
  walk [] disk.root location.pieces

/-! ## Reading -/

/-- What stands at a location. -/
def look (disk : Disk) (location : Location) : Except DiskFault (Option Node) := do
  let place ← disk.resolve location
  .ok (disk.node? place)

def exists? (disk : Disk) (location : Location) : Bool :=
  match disk.look location with
  | .ok (some _) => true
  | _ => false

def isDirectory (disk : Disk) (location : Location) : Bool :=
  match disk.look location with
  | .ok (some node) => node.isDirectory
  | _ => false

/-- The text of a file. -/
def readText (disk : Disk) (location : Location) : Except DiskFault String := do
  match ← disk.look location with
  | none => .error .notFound
  | some (.directory _) => .error .isADirectory
  | some (.file content) =>
      match String.fromUTF8? content with
      | some text => .ok text
      | none => .error .invalidText

/-- The names in a directory, in order. -/
def list (disk : Disk) (location : Location) : Except DiskFault (List String) := do
  let place ← disk.resolve location
  match disk.node? place with
  | none => .error .notFound
  | some (.file _) => .error .notADirectory
  | some (.directory entries) => .ok (entries.map Prod.fst)

/-! ## Actions -/

/-- A change of a disk. -/
inductive Action where
  | createDirectory (location : Location)
  | write (location : Location) (content : ByteArray)
  | rename (source target : Location)
  | remove (location : Location)

/-- Creates one directory in an existing one. -/
def createDirectory (disk : Disk) (location : Location) : Except DiskFault Disk := do
  checkLocation location
  let place ← disk.resolve location.withoutEndSlashes
  match disk.node? place with
  | some _ => .error .alreadyExists
  | none => .ok (disk.put place (.directory []))

/-- Writes a file, replacing its content. -/
def write (disk : Disk) (location : Location) (content : ByteArray) : Except DiskFault Disk := do
  let place ← disk.resolve location
  match disk.node? place with
  | some (.directory _) => .error .isADirectory
  | _ => .ok (disk.put place (.file content))

/-- Renames a file, replacing a file at the target. -/
def rename (disk : Disk) (source target : Location) : Except DiskFault Disk := do
  let sourcePlace ← disk.resolve source
  let targetPlace ← disk.resolve target
  match disk.node? sourcePlace, disk.node? targetPlace with
  | none, _ => .error .notFound
  | some (.directory _), _ => .error .isADirectory
  | some (.file _), some (.directory _) => .error .isADirectory
  | some (.file content), _ =>
      .ok ((disk.erase sourcePlace).put targetPlace (.file content))

/-- Removes a file. -/
def remove (disk : Disk) (location : Location) : Except DiskFault Disk := do
  let place ← disk.resolve location
  match disk.node? place with
  | none => .error .notFound
  | some (.directory _) => .error .isADirectory
  | some (.file _) => .ok (disk.erase place)

/-- Performs an action. -/
def perform (disk : Disk) : Action → Except DiskFault Disk
  | .createDirectory location => disk.createDirectory location
  | .write location content => disk.write location content
  | .rename source target => disk.rename source target
  | .remove location => disk.remove location

end Disk

end DocStore
