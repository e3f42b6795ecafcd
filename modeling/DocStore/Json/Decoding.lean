import DocStore.Json.Basic

/-!
Contract: the shapes in which records and choices are written as JSON.

A record is an object with named members, other members being ignored, or the
list of its fields in order, in which fields at the end may be missing. A tagged
choice is a record whose first field, `type`, names the choice. A choice without
data is its name, or an object whose only member has that name and no content.

Owns: these views of JSON data and the readers of basic field types.
-/

namespace DocStore.Json

/-- The fields of a record in the order of their names; a missing field is `none`. -/
def record? (names : List String) : Json → Option (List (Option Json))
  | object members => some (names.map fun name => Entries.find? name members)
  | array items =>
      if items.length ≤ names.length then
        some (items.map some ++ List.replicate (names.length - items.length) none)
      else none
  | _ => none

/-- The tag of a tagged choice and the record that is left without it. -/
def tagged? : Json → Option (Json × Json)
  | object members =>
      (Entries.find? "type" members).map fun tag => (tag, object (Entries.erase "type" members))
  | array (tag :: rest) => some (tag, array rest)
  | _ => none

def string? : Json → Option String
  | string text => some text
  | _ => none

def bool? : Json → Option Bool
  | bool value => some value
  | _ => none

/-- A count: a non-negative integer literal. -/
def count? : Json → Option Nat
  | integer value => if 0 ≤ value then some value.toNat else none
  | _ => none

def items : Json → Option (List Json)
  | array items => some items
  | _ => none

/-- The choice with a name. -/
def choice? {Choice : Type} (all : List Choice) (name : Choice → String) (text : String) :
    Option Choice :=
  all.find? fun choice => name choice == text

/-- Which JSON values stand for "no data" behind the name of a choice. -/
inductive NoData where
  | nullOnly
  | nullOrEmpty
deriving DecidableEq, Repr

def NoData.allows : NoData → Json → Bool
  | _, null => true
  | nullOrEmpty, object [] => true
  | _, _ => false

/-- A choice without data: its name, or an object from its name to no data. -/
def plainChoice? {Choice : Type} (noData : NoData) (all : List Choice) (name : Choice → String) :
    Json → Option Choice
  | string text => choice? all name text
  | object [(text, content)] => if noData.allows content then choice? all name text else none
  | _ => none

/-- A tag: the name of a choice or, inside another tagged choice, its number. -/
def tag? {Choice : Type} (numbered : Bool) (all : List Choice) (name : Choice → String) :
    Json → Option Choice
  | string text => choice? all name text
  | integer value => if numbered && decide (0 ≤ value) then all[value.toNat]? else none
  | _ => none

end DocStore.Json
