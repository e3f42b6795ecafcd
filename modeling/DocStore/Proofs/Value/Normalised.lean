import DocStore.Proofs.Json.RoundTrip
import DocStore.Proofs.Number.Zero
import DocStore.Proofs.Value.Ordered

/-!
Contract: what writing a value as JSON and reading it again leaves of it.

JSON has no non-finite numbers and documents have no negative zero in writing:
the former come back as the strings of their names, the latter as zero, and
nothing else changes. Values that differ only in that have the same JSON data,
and the data of an ordered value is faithful to its text.

Owns: `Value.normalised`, `Document.normalised` and their laws.
-/

namespace DocStore

namespace Number

/-- A whole number that is written as an integer fits a word. -/
theorem isWordSized_of_whole? {number : Number} {value : Int}
    (whole : number.whole? = some value) : Json.isWordSized value = true := by
  cases number with
  | nan => cases whole
  | infinite negative => cases whole
  | finite negative position =>
      simp only [whole?] at whole
      split at whole
      next conditions =>
        have small := conditions.2
        have isValue := Option.some.inj whole
        generalize units position.val / unitsPerOne = size at small isValue
        rw [Nat.pow_eq] at small
        refine decide_eq_true ?_
        cases negative with
        | true =>
            rw [if_pos rfl] at isValue
            omega
        | false =>
            rw [if_neg Bool.false_ne_true] at isValue
            omega
      next => cases whole

end Number

namespace Value

mutual

/-- A value with its non-finite numbers replaced by the strings of their names, and negative zero
by zero. -/
def normalised : Value → Value
  | number value =>
      if value.isFinite then number value.withoutNegativeZero else string value.plainText
  | array items => array (itemsNormalised items)
  | object fields => object (fieldsNormalised fields)
  | other => other

def itemsNormalised : List Value → List Value
  | [] => []
  | item :: rest => item.normalised :: itemsNormalised rest

def fieldsNormalised : List (String × Value) → List (String × Value)
  | [] => []
  | (key, item) :: rest => (key, item.normalised) :: fieldsNormalised rest

end

theorem fieldsNormalised_eq_map (fields : Fields) :
    fieldsNormalised fields = fields.map fun field => (field.1, field.2.normalised) := by
  induction fields with
  | nil => rfl
  | cons field rest inductionHypothesis =>
      obtain ⟨key, item⟩ := field
      rw [fieldsNormalised, inductionHypothesis]
      rfl

/-! ## JSON data -/

theorem whole?_of_not_finite {value : Number} (notFinite : value.isFinite = false) :
    value.whole? = none := by
  cases value with
  | finite negative position => cases notFinite
  | _ => rfl

theorem ofJson_jsonOfNumber (value : Number) :
    ofJson (jsonOfNumber value) = (number value).normalised := by
  unfold jsonOfNumber
  rw [normalised]
  cases whole : value.whole? with
  | some integer =>
      have isFinite : value.isFinite = true := by
        cases finite : value.isFinite with
        | true => rfl
        | false =>
            rw [whole?_of_not_finite finite] at whole
            cases whole
      simp only [ofJson]
      rw [if_pos isFinite, Number.ofInt_of_whole? whole]
  | none =>
      simp only
      rw [Number.withoutNegativeZero_of_not_whole whole]
      cases value <;> rfl

theorem jsonOfNumber_withoutNegativeZero (value : Number) :
    jsonOfNumber value.withoutNegativeZero = jsonOfNumber value := by
  unfold jsonOfNumber
  rw [Number.whole?_withoutNegativeZero]
  cases whole : value.whole? with
  | some integer => rfl
  | none => rw [Number.withoutNegativeZero_of_not_whole whole]

mutual

/-- Reading the JSON data of a value gives the value normalised. -/
theorem ofJson_toJson : ∀ value : Value, ofJson value.toJson = value.normalised
  | null | bool _ | string _ => rfl
  | number value => ofJson_jsonOfNumber value
  | array items => by rw [toJson, ofJson, normalised, itemsOfJson_itemsToJson]
  | object fields => by rw [toJson, ofJson, normalised, fieldsOfJson_fieldsToJson]

theorem itemsOfJson_itemsToJson : ∀ items : List Value,
    itemsOfJson (itemsToJson items) = itemsNormalised items
  | [] => rfl
  | item :: rest => by
      rw [itemsToJson, itemsOfJson, itemsNormalised, ofJson_toJson item,
        itemsOfJson_itemsToJson rest]

theorem fieldsOfJson_fieldsToJson : ∀ fields : List (String × Value),
    fieldsOfJson (fieldsToJson fields) = fieldsNormalised fields
  | [] => rfl
  | (_, item) :: rest => by
      rw [fieldsToJson, fieldsOfJson, fieldsNormalised, ofJson_toJson item,
        fieldsOfJson_fieldsToJson rest]

end

mutual

/-- A value and its normal form are written alike. -/
theorem toJson_normalised : ∀ value : Value, value.normalised.toJson = value.toJson
  | null | bool _ | string _ => rfl
  | number value => by
      rw [normalised, toJson]
      cases isFinite : value.isFinite with
      | true =>
          rw [if_pos rfl]
          exact jsonOfNumber_withoutNegativeZero value
      | false =>
          rw [if_neg Bool.false_ne_true, jsonOfNumber, whole?_of_not_finite isFinite, isFinite]
          rfl
  | array items => by rw [normalised, toJson, toJson, itemsToJson_itemsNormalised]
  | object fields => by rw [normalised, toJson, toJson, fieldsToJson_fieldsNormalised]

theorem itemsToJson_itemsNormalised : ∀ items : List Value,
    itemsToJson (itemsNormalised items) = itemsToJson items
  | [] => rfl
  | item :: rest => by
      rw [itemsNormalised, itemsToJson, itemsToJson, toJson_normalised item,
        itemsToJson_itemsNormalised rest]

theorem fieldsToJson_fieldsNormalised : ∀ fields : List (String × Value),
    fieldsToJson (fieldsNormalised fields) = fieldsToJson fields
  | [] => rfl
  | (_, item) :: rest => by
      rw [fieldsNormalised, fieldsToJson, fieldsToJson, toJson_normalised item,
        fieldsToJson_fieldsNormalised rest]

end

theorem keys_fieldsToJson (fields : Fields) :
    (fieldsToJson fields).map Prod.fst = fields.map Prod.fst := by
  induction fields with
  | nil => rfl
  | cons field rest inductionHypothesis =>
      obtain ⟨key, item⟩ := field
      simp [fieldsToJson, inductionHypothesis]

theorem isFaithful_jsonOfNumber (value : Number) : (jsonOfNumber value).isFaithful = true := by
  unfold jsonOfNumber
  split
  next whole => exact Number.isWordSized_of_whole? whole
  next =>
    split
    next isFinite => exact isFinite
    next => rfl

mutual

/-- The data of an ordered value is read back from its text. -/
theorem isFaithful_toJson : ∀ value : Value, value.isOrdered = true →
    value.toJson.isFaithful = true
  | null, _ | bool _, _ | string _, _ => rfl
  | number value, _ => isFaithful_jsonOfNumber value
  | array items, ordered => by
      rw [isOrdered] at ordered
      rw [toJson, Json.isFaithful]
      exact itemsFaithful_itemsToJson items ordered
  | object fields, ordered => by
      rw [isOrdered, Bool.and_eq_true, decide_eq_true_iff] at ordered
      rw [toJson, Json.isFaithful, Bool.and_eq_true, decide_eq_true_iff, Entries.sorted_iff_keys,
        keys_fieldsToJson, ← Entries.sorted_iff_keys]
      exact ⟨ordered.1, membersFaithful_fieldsToJson fields ordered.2⟩

theorem itemsFaithful_itemsToJson : ∀ items : List Value, itemsOrdered items = true →
    Json.itemsFaithful (itemsToJson items) = true
  | [], _ => rfl
  | item :: rest, ordered => by
      rw [itemsOrdered, Bool.and_eq_true] at ordered
      rw [itemsToJson, Json.itemsFaithful, isFaithful_toJson item ordered.1,
        itemsFaithful_itemsToJson rest ordered.2]
      rfl

theorem membersFaithful_fieldsToJson : ∀ fields : List (String × Value),
    fieldsOrdered fields = true → Json.membersFaithful (fieldsToJson fields) = true
  | [], _ => rfl
  | (_, item) :: rest, ordered => by
      rw [fieldsOrdered, Bool.and_eq_true] at ordered
      rw [fieldsToJson, Json.membersFaithful, isFaithful_toJson item ordered.1,
        membersFaithful_fieldsToJson rest ordered.2]
      rfl

end

end Value

/-! ## Documents -/

namespace Document

/-- A document with every value in it normalised. -/
def normalised (document : Document) : Document := ⟨Value.fieldsNormalised document.fields⟩

theorem ofJson_toJson (document : Document) : ofJson document.toJson = .ok document.normalised := by
  unfold ofJson toJson toValue
  rw [Value.ofJson_toJson, Value.normalised]
  rfl

theorem toJson_normalised (document : Document) : document.normalised.toJson = document.toJson := by
  have same := Value.toJson_normalised document.toValue
  unfold toJson toValue normalised
  unfold toValue at same
  rw [Value.normalised] at same
  exact same

/-- Normalising keeps the key of a document. -/
theorem key?_normalised {document : Document} {key : String} (isKey : document.key? = some key) :
    document.normalised.key? = some key := by
  unfold key? normalised at *
  rw [Value.fieldsNormalised_eq_map, Entries.find?_map]
  cases found : Entries.find? keyField document.fields with
  | none =>
      rw [found] at isKey
      cases isKey
  | some value =>
      rw [found] at isKey
      cases value with
      | string text => exact isKey
      | _ => cases isKey

end Document

end DocStore
