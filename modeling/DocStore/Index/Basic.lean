import DocStore.Index.Key
import DocStore.Comparison

/-!
Contract: indexes over one field.

An index lists the keys of documents under the index keys of their field.
Documents without a key, without the field or with an array in it are not
listed. A look-up answers a comparison with a literal; for numbers it walks a
window of the key order, for strings and objects their whole section.

Owns: `Index`, its upkeep, windows of the key order, and look-ups.
-/

namespace DocStore

/-- An index over one field: document keys under index keys. -/
structure Index where
  field : String
  entries : SortedMap IndexKey KeySet

namespace Index

def empty (field : String) : Index := ⟨field, SortedMap.empty⟩

/-! ## Upkeep -/

/-- The index key and the document key under which a document is listed, if it is. -/
def entry? (field : String) (document : Document) : Option (IndexKey × String) := do
  let key ← document.key?
  let value ← document.get? field
  let indexKey ← IndexKey.ofValue? value
  some (indexKey, key)

/-- Lists a document. -/
def insert (index : Index) (document : Document) : Index :=
  match entry? index.field document with
  | some (indexKey, key) =>
      let present := (index.entries.find? indexKey).getD SortedMap.empty
      { index with entries := index.entries.insert indexKey (KeySet.insert present key) }
  | none => index

/-- Takes a document off the lists; an index key without documents goes with it. -/
def remove (index : Index) (document : Document) : Index :=
  match entry? index.field document with
  | some (indexKey, key) =>
      match index.entries.find? indexKey with
      | some present =>
          let left := SortedMap.erase present key
          if left.isEmpty then { index with entries := index.entries.erase indexKey }
          else { index with entries := index.entries.insert indexKey left }
      | none => index
  | none => index

/-- The index of a document list. -/
def build (field : String) (documents : List Document) : Index :=
  documents.foldl insert (empty field)

/-! ## Windows -/

/-- One end of a window of the key order. -/
inductive Bound where
  | included (key : IndexKey)
  | excluded (key : IndexKey)
  | unbounded
deriving DecidableEq

/-- A stretch of the key order. -/
structure Window where
  lower : Bound
  upper : Bound
deriving DecidableEq

namespace Window

def isAbove (lower : Bound) (key : IndexKey) : Bool :=
  match lower with
  | .included bound => (compare bound key).isLE
  | .excluded bound => compare bound key == .lt
  | .unbounded => true

def isBelow (upper : Bound) (key : IndexKey) : Bool :=
  match upper with
  | .included bound => (compare key bound).isLE
  | .excluded bound => compare key bound == .lt
  | .unbounded => true

def contains (window : Window) (key : IndexKey) : Bool :=
  isAbove window.lower key && isBelow window.upper key

/-- A window is well formed when its ends are in order and do not both exclude one key. -/
def WellFormed (window : Window) : Prop :=
  match window.lower, window.upper with
  | .excluded lower, .excluded upper => compare lower upper = .lt
  | .included lower, .included upper
  | .included lower, .excluded upper
  | .excluded lower, .included upper => (compare lower upper).isLE = true
  | .unbounded, _ | _, .unbounded => True

instance (window : Window) : Decidable window.WellFormed := by
  unfold WellFormed
  split <;> infer_instance

end Window

/-- The key at which the numbers begin. -/
def leastNumber : IndexKey := .number (.ofNumber (.infinite true))

/-- The window of the numbers that a comparison with a number literal has to look at; NaN is
looked for nowhere, and everywhere for inequality. -/
def numberWindow? (comparison : Comparison) (literal : Number) : Option Window :=
  let pivot : IndexKey := .number (.ofNumber literal)
  if literal.isNaN then
    if comparison = .notEquals then some ⟨.included leastNumber, .unbounded⟩ else none
  else
    match comparison with
    | .equals => some ⟨.included pivot, .included pivot⟩
    | .notEquals => some ⟨.included leastNumber, .unbounded⟩
    | .greater => some ⟨.excluded pivot, .unbounded⟩
    | .greaterOrEqual => some ⟨.included pivot, .unbounded⟩
    | .smaller => some ⟨.included leastNumber, .excluded pivot⟩
    | .smallerOrEqual => some ⟨.included leastNumber, .included pivot⟩
    | .isIn | .isNotIn | .contains => none

/-! ## Look-ups -/

/-- All document keys of some entries. -/
def collect (entries : List (IndexKey × KeySet)) : KeySet :=
  entries.foldl (fun keys entry => keys.union entry.2) SortedMap.empty

/-- The entries in a window. -/
def entriesIn (index : Index) (window : Window) : List (IndexKey × KeySet) :=
  index.entries.toList.filter fun entry => window.contains entry.1

/-- The document keys under one index key. -/
def exactly (index : Index) (key : IndexKey) : KeySet :=
  (index.entries.find? key).getD SortedMap.empty

/-- The document keys under numbers that stand in a comparison to a literal. Equality is read off
one key; NaN equals nothing. -/
def lookupNumber (index : Index) (comparison : Comparison) (literal : Number) : KeySet :=
  match numberWindow? comparison literal with
  | some window =>
      let numbers := (index.entriesIn window).takeWhile fun entry => entry.1.isNumber
      collect (numbers.filter fun entry =>
        match entry.1 with
        | .number key => comparison = .equals || comparison.holdsOnNumbers literal key.number
        | _ => false)
  | none => SortedMap.empty

/-- The document keys under strings that stand in a comparison to a literal. -/
def lookupString (index : Index) (comparison : Comparison) (literal : String) : KeySet :=
  let strings := (index.entriesIn ⟨.included (.string ""), .unbounded⟩).takeWhile
    fun entry => entry.1.isString
  collect (strings.filter fun entry =>
    match entry.1 with
    | .string text => comparison.holdsOnStrings literal text
    | _ => false)

/-- The document keys under objects that stand in a comparison to a literal object. -/
def lookupObject (index : Index) (comparison : Comparison) (literal : String) : KeySet :=
  match comparison with
  | .equals => index.exactly (.object literal)
  | .notEquals =>
      collect ((index.entriesIn ⟨.included (.object ""), .unbounded⟩).filter fun entry =>
        match entry.1 with
        | .object text => text != literal
        | _ => false)
  | _ => SortedMap.empty

/-- The look-up of a literal that is no array. -/
def lookupSingle (index : Index) (comparison : Comparison) (literal : Value) : KeySet :=
  match literal with
  | .null => if comparison = .equals then index.exactly .null else SortedMap.empty
  | .bool value =>
      match comparison with
      | .equals => index.exactly (.bool value)
      | .notEquals => index.exactly (.bool !value)
      | _ => SortedMap.empty
  | .number value => index.lookupNumber comparison value
  | .string text => index.lookupString comparison text
  | .object fields => index.lookupObject comparison (Value.object fields).canonicalKey
  | .array _ => SortedMap.empty

/-- The keys of the documents whose field stands in a comparison to a literal. An array literal
is looked up member by member, and only under `isIn`. -/
def lookup (index : Index) (comparison : Comparison) (literal : Value) : KeySet :=
  match literal with
  | .array members =>
      if comparison = .isIn then
        (members.filter Value.isScalar).foldl
          (fun keys member => keys.union (index.lookupSingle .equals member)) SortedMap.empty
      else SortedMap.empty
  | single => index.lookupSingle comparison single

end Index

end DocStore
