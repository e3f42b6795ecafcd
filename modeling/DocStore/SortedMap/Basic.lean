import DocStore.SortedMap.Entries

/-!
Contract: finite maps walked in key order.

A sorted map is an ordered entry list together with the proof of its order, so
two maps that answer every key alike are equal and every walk over a map is in
key order without repetition. A key set is a map that holds nothing but keys.

Owns: `SortedMap`, `KeySet`, their operations and one law per operation.
-/

namespace DocStore

/-- A finite map whose entries are in strictly increasing key order. -/
structure SortedMap (Key : Type u) (Content : Type v) [Ord Key] where
  entries : List (Key × Content)
  sorted : Entries.Sorted entries

namespace SortedMap

variable {Key : Type u} {Content : Type v} [Ord Key]

def empty : SortedMap Key Content := ⟨[], List.Pairwise.nil⟩

instance : Inhabited (SortedMap Key Content) := ⟨empty⟩

def toList (map : SortedMap Key Content) : List (Key × Content) := map.entries

def keys (map : SortedMap Key Content) : List Key := map.entries.map Prod.fst

def values (map : SortedMap Key Content) : List Content := map.entries.map Prod.snd

def size (map : SortedMap Key Content) : Nat := map.entries.length

def isEmpty (map : SortedMap Key Content) : Bool := map.entries.isEmpty

def find? (map : SortedMap Key Content) (key : Key) : Option Content :=
  Entries.find? key map.entries

def contains (map : SortedMap Key Content) (key : Key) : Bool := (map.find? key).isSome

/-- The entries that pass a test. -/
def filter (keep : Key → Content → Bool) (map : SortedMap Key Content) : SortedMap Key Content :=
  ⟨map.entries.filter fun entry => keep entry.1 entry.2, List.Pairwise.filter _ map.sorted⟩

/-- Applies a function to every content and keeps the keys. -/
def mapValues {Result : Type w} (change : Content → Result) (map : SortedMap Key Content) :
    SortedMap Key Result :=
  ⟨map.entries.map fun entry => (entry.1, change entry.2), by
    unfold Entries.Sorted
    exact List.pairwise_map.2 map.sorted⟩

@[simp] theorem find?_empty (key : Key) :
    (empty : SortedMap Key Content).find? key = none := rfl

def erase (map : SortedMap Key Content) (key : Key) : SortedMap Key Content :=
  ⟨Entries.erase key map.entries, List.Pairwise.filter _ map.sorted⟩

def insert [Std.TransOrd Key] [Std.LawfulEqOrd Key] (map : SortedMap Key Content)
    (key : Key) (content : Content) : SortedMap Key Content :=
  ⟨Entries.insert key content map.entries, map.sorted.insert key content⟩

/-- Collects entries from the left; a later entry replaces an earlier one with its key. -/
def ofList [Std.TransOrd Key] [Std.LawfulEqOrd Key] (entries : List (Key × Content)) :
    SortedMap Key Content :=
  ⟨Entries.ofList entries, Entries.Sorted.ofList entries⟩

/-! ## What each operation answers -/

@[ext] theorem ext [Std.TransOrd Key] [Std.LawfulEqOrd Key] {left right : SortedMap Key Content}
    (same : ∀ key, left.find? key = right.find? key) : left = right := by
  obtain ⟨leftEntries, leftSorted⟩ := left
  obtain ⟨rightEntries, rightSorted⟩ := right
  have sameEntries : leftEntries = rightEntries := leftSorted.ext rightSorted same
  subst sameEntries
  rfl

theorem find?_insert_self [Std.TransOrd Key] [Std.LawfulEqOrd Key]
    (map : SortedMap Key Content) (key : Key) (content : Content) :
    (map.insert key content).find? key = some content :=
  Entries.find?_insert_self key content map.entries

theorem find?_insert_of_ne [Std.TransOrd Key] [Std.LawfulEqOrd Key]
    (map : SortedMap Key Content) {key other : Key}
    (different : other ≠ key) (content : Content) :
    (map.insert key content).find? other = map.find? other :=
  Entries.find?_insert_of_ne different content map.entries

theorem find?_erase_self (map : SortedMap Key Content) (key : Key) :
    (map.erase key).find? key = none :=
  Entries.find?_erase_self key map.entries

theorem find?_erase_of_ne [Std.LawfulEqOrd Key] (map : SortedMap Key Content) {key other : Key}
    (different : other ≠ key) : (map.erase key).find? other = map.find? other :=
  Entries.find?_erase_of_ne different map.entries

theorem mem_toList_iff [Std.LawfulEqOrd Key] (map : SortedMap Key Content) (key : Key)
    (content : Content) : (key, content) ∈ map.toList ↔ map.find? key = some content :=
  map.sorted.mem_iff_find? key content

end SortedMap

/-! ## Key sets -/

/-- A set of document keys, walked in key order. -/
abbrev KeySet := SortedMap String Unit

namespace KeySet

def insert (set : KeySet) (key : String) : KeySet := SortedMap.insert set key ()

def ofKeys (keys : List String) : KeySet := keys.foldl insert SortedMap.empty

/-- The keys of either set. -/
def union (left right : KeySet) : KeySet := right.keys.foldl insert left

/-- The keys of the first set that are in the second. -/
def inter (left right : KeySet) : KeySet := left.filter fun key _ => right.contains key

/-- The keys of the first set that are not in the second. -/
def diff (left right : KeySet) : KeySet := left.filter fun key _ => !right.contains key

end KeySet

end DocStore
