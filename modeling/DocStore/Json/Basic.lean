import DocStore.Number.Basic
import DocStore.SortedMap.Entries

/-!
Contract: JSON data.

A number literal is either an integer of at most 64 bits or a double. The
members of an object are listed in key order; readers build them with
`Entries.insert`, so the last of several members with one key stays.

Owns: the type, its kinds and the nesting depth.
Does not own: text, or the values that documents hold.
-/

namespace DocStore

/-- A JSON value. -/
inductive Json where
  | null
  | bool (value : Bool)
  | integer (value : Int)
  | decimal (value : Number)
  | string (text : String)
  | array (items : List Json)
  | object (members : List (String × Json))
deriving Repr, Inhabited

namespace Json

mutual

/-- How many containers are nested inside one another. -/
def depth : Json → Nat
  | null | bool _ | integer _ | decimal _ | string _ => 0
  | array items => itemsDepth items + 1
  | object members => membersDepth members + 1

def itemsDepth : List Json → Nat
  | [] => 0
  | item :: rest => max item.depth (itemsDepth rest)

def membersDepth : List (String × Json) → Nat
  | [] => 0
  | (_, item) :: rest => max item.depth (membersDepth rest)

end

/-- The member of an object with a key. Other values have no members. -/
def member? (key : String) : Json → Option Json
  | object members => Entries.find? key members
  | _ => none

end Json

end DocStore
