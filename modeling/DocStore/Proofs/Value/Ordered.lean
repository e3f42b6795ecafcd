import DocStore.Document
import DocStore.Proofs.Json.Ordered
import DocStore.Proofs.SortedMap.Reading

/-!
Contract: values whose objects list their fields in key order.

The fields of an object form a map, so they stand in strictly increasing key
order at every depth. Values and documents that are handed around as maps carry
the proof of this. Values read from ordered JSON data are ordered, and a document
stays ordered when its key is written.

Owns: `Value.isOrdered`, `Document.isOrdered`, `OrderedValue`, `OrderedDocument` and
their laws.
-/

namespace DocStore

namespace Value

mutual

/-- Whether the fields of every object stand in strictly increasing key order. -/
def isOrdered : Value → Bool
  | array items => itemsOrdered items
  | object fields => decide (Entries.Sorted fields) && fieldsOrdered fields
  | _ => true

def itemsOrdered : List Value → Bool
  | [] => true
  | item :: rest => item.isOrdered && itemsOrdered rest

def fieldsOrdered : List (String × Value) → Bool
  | [] => true
  | (_, item) :: rest => item.isOrdered && fieldsOrdered rest

end

theorem fieldsOrdered_iff (fields : Fields) :
    fieldsOrdered fields = true ↔ ∀ field ∈ fields, field.2.isOrdered = true := by
  induction fields with
  | nil => simp [fieldsOrdered]
  | cons field rest inductionHypothesis =>
      obtain ⟨key, item⟩ := field
      simp [fieldsOrdered, inductionHypothesis]

theorem itemsOrdered_iff (items : List Value) :
    itemsOrdered items = true ↔ ∀ item ∈ items, item.isOrdered = true := by
  induction items with
  | nil => simp [itemsOrdered]
  | cons item rest inductionHypothesis => simp [itemsOrdered, inductionHypothesis]

theorem isOrdered_object_iff (fields : Fields) :
    (object fields).isOrdered = true ↔
      Entries.Sorted fields ∧ ∀ field ∈ fields, field.2.isOrdered = true := by
  rw [isOrdered, Bool.and_eq_true, decide_eq_true_iff, fieldsOrdered_iff]

end Value

/-- A value whose objects are maps, at every depth. -/
structure OrderedValue where
  value : Value
  ordered : value.isOrdered = true

namespace Value

/-! ## Values of JSON data -/

theorem fieldsOfJson_eq_map (members : List (String × Json)) :
    fieldsOfJson members = members.map fun member => (member.1, ofJson member.2) := by
  induction members with
  | nil => rfl
  | cons member rest inductionHypothesis =>
      rw [fieldsOfJson, inductionHypothesis]
      rfl

/-- Reading changes no key. -/
theorem keys_fieldsOfJson (members : List (String × Json)) :
    (fieldsOfJson members).map Prod.fst = members.map Prod.fst := by
  rw [fieldsOfJson_eq_map, List.map_map]
  rfl

mutual

theorem isOrdered_ofJson : ∀ (json : Json), json.isOrdered = true → (ofJson json).isOrdered = true
  | .null, _ | .bool _, _ | .integer _, _ | .decimal _, _ | .string _, _ => rfl
  | .array items, ordered => by
      rw [ofJson, isOrdered]
      rw [Json.isOrdered] at ordered
      exact itemsOrdered_itemsOfJson items ordered
  | .object members, ordered => by
      rw [Json.isOrdered, Bool.and_eq_true, decide_eq_true_iff] at ordered
      rw [ofJson, isOrdered, Bool.and_eq_true, decide_eq_true_iff]
      refine ⟨?_, fieldsOrdered_fieldsOfJson members ordered.2⟩
      rw [Entries.sorted_iff_keys, keys_fieldsOfJson, ← Entries.sorted_iff_keys]
      exact ordered.1

theorem itemsOrdered_itemsOfJson : ∀ (items : List Json), Json.itemsOrdered items = true →
    itemsOrdered (itemsOfJson items) = true
  | [], _ => rfl
  | item :: rest, ordered => by
      rw [Json.itemsOrdered, Bool.and_eq_true] at ordered
      rw [itemsOfJson, itemsOrdered, Bool.and_eq_true]
      exact ⟨isOrdered_ofJson item ordered.1, itemsOrdered_itemsOfJson rest ordered.2⟩

theorem fieldsOrdered_fieldsOfJson : ∀ (members : List (String × Json)),
    Json.membersOrdered members = true → fieldsOrdered (fieldsOfJson members) = true
  | [], _ => rfl
  | (_, item) :: rest, ordered => by
      rw [Json.membersOrdered, Bool.and_eq_true] at ordered
      rw [fieldsOfJson, fieldsOrdered, Bool.and_eq_true]
      exact ⟨isOrdered_ofJson item ordered.1, fieldsOrdered_fieldsOfJson rest ordered.2⟩

end

end Value

/-! ## Documents -/

namespace Document

/-- Whether a document and everything in it is ordered. -/
def isOrdered (document : Document) : Bool := document.toValue.isOrdered

end Document

/-- A document that is a map and holds only maps for objects. Of a document that is written out
this is found by evaluation. -/
structure OrderedDocument extends Document where
  ordered : toDocument.isOrdered = true := by exact Eq.refl true

instance : Coe OrderedDocument Document := ⟨OrderedDocument.toDocument⟩

namespace OrderedDocument

def toOrderedValue (document : OrderedDocument) : OrderedValue :=
  ⟨document.toValue, document.ordered⟩

theorem sorted_fields (document : OrderedDocument) : Entries.Sorted document.fields :=
  ((Value.isOrdered_object_iff _).1 document.ordered).1

theorem isOrdered_withKey (document : OrderedDocument) (key : String) :
    (document.withKey key).isOrdered = true := by
  rw [Document.isOrdered, Document.toValue, Value.isOrdered_object_iff]
  refine ⟨document.sorted_fields.insert Document.keyField (.string key), ?_⟩
  intro field member
  rcases Entries.mem_insert member with isKey | before
  · rw [isKey, Value.isOrdered]
    · exact fun _ isArray => Value.noConfusion isArray
    · exact fun _ isObject => Value.noConfusion isObject
  · exact ((Value.isOrdered_object_iff _).1 document.ordered).2 field before

end OrderedDocument

namespace Document

/-- A document is read with the fields of its data. -/
theorem toValue_of_ofJson {json : Json} {document : Document}
    (read : ofJson json = .ok document) : document.toValue = Value.ofJson json := by
  unfold ofJson at read
  cases value : Value.ofJson json with
  | object fields =>
      rw [value] at read
      cases read
      rfl
  | _ =>
      rw [value] at read
      cases read

theorem isOrdered_of_ofJson {json : Json} {document : Document}
    (jsonOrdered : json.isOrdered = true) (read : ofJson json = .ok document) :
    document.isOrdered = true := by
  unfold isOrdered
  rw [toValue_of_ofJson read]
  exact Value.isOrdered_ofJson json jsonOrdered

end Document

end DocStore
