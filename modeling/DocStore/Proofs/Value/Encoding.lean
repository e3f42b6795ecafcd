import DocStore.Proofs.Value.Depth
import DocStore.Proofs.Value.Equality

/-!
Contract: the two encodings of values agree, and reading inverts them up to the normal form.

A value can be written at once, or turned into JSON data that is then written. Both
decide on their own how a number is encoded, and both come to the same text, which
is read back as the data. What the data is read as is the value in its normal form,
so it is encoded alike once more, and it equals the value unless a number in it is
not finite.

Owns: the law of the direct writer, and the laws of encoding and decoding.
-/

namespace DocStore

namespace Value

/-! ## The direct writer -/

/-- No finite number is written as null. -/
theorem compactChars_jsonOfNumber (value : Number) :
    (jsonOfNumber value).compactChars = numberText value := by
  cases value with
  | finite negative position =>
      rw [jsonOfNumber, numberText]
      cases (Number.finite negative position).whole? <;> rfl
  | _ => rfl

mutual

/-- A value is written as its data is. -/
theorem compactChars_toJson : ∀ value : Value, value.toJson.compactChars = value.compactChars
  | null | bool _ | string _ | array [] | object [] => rfl
  | number value => compactChars_jsonOfNumber value
  | array (item :: rest) => by
      rw [toJson, itemsToJson, Json.compactChars, compactChars, compactChars_toJson item,
        compactItems_itemsToJson rest]
  | object ((key, item) :: rest) => by
      rw [toJson, fieldsToJson, Json.compactChars, compactChars, compactChars_toJson item,
        compactMembers_fieldsToJson rest]

theorem compactItems_itemsToJson : ∀ items : List Value,
    Json.compactItems (itemsToJson items) = compactItems items
  | [] => rfl
  | item :: rest => by
      rw [itemsToJson, Json.compactItems, compactItems, compactChars_toJson item,
        compactItems_itemsToJson rest]

theorem compactMembers_fieldsToJson : ∀ fields : List (String × Value),
    Json.compactMembers (fieldsToJson fields) = compactFields fields
  | [] => rfl
  | (key, item) :: rest => by
      rw [fieldsToJson, Json.compactMembers, compactFields, compactChars_toJson item,
        compactMembers_fieldsToJson rest]

end

theorem compact_toJson (value : Value) : value.toJson.compact = value.compact :=
  congrArg String.ofList (compactChars_toJson value)

/-- What is written directly is read as the data, by a reader that may open its containers. -/
theorem parseWithin?_compact [NumeralReader] [Json.ReadsBack] (map : OrderedValue) {levels : Nat}
    (deep : map.value.toJson.depth ≤ levels) :
    Json.parseWithin? levels map.value.compact = some map.value.toJson := by
  rw [← compact_toJson]
  exact Json.parseWithin?_compact (isFaithful_toJson map.value map.ordered) deep

/-! ## Decoding -/

/-- A decoded number is the number, except that non-finite ones turn into their names and negative
zero into zero. -/
theorem ofJson_toJson_finite (negative : Bool) (position : Fin Number.gridSize) :
    ofJson (number (.finite negative position)).toJson =
      number (if position.val = 0 then .zero else .finite negative position) :=
  ofJson_toJson (number (.finite negative position))

theorem equals_ofJson_toJson_iff (value : Value) :
    (ofJson value.toJson).equals value = true ↔ value.isFinite = true := by
  rw [ofJson_toJson, equals_normalised_eq]

theorem toJson_ofJson_toJson (value : Value) : (ofJson value.toJson).toJson = value.toJson := by
  rw [ofJson_toJson, toJson_normalised]

/-! ## The law -/

/-- Writing a value directly gives the text of its data, from which the data of a value made of
maps is read back however deeply it is nested. Decoding the data gives the value with its
non-finite numbers replaced by their names and negative zero by zero, which equals the value
exactly when all its numbers are finite, and is encoded as the same data. The same holds of
documents. -/
theorem encoding_exact :
    (∀ value : Value,
      value.compact = value.toJson.compact ∧
        ofJson value.toJson = value.normalised ∧
        ((ofJson value.toJson).equals value = true ↔ value.isFinite = true) ∧
        (ofJson value.toJson).toJson = value.toJson) ∧
      (∀ [NumeralReader] [Json.ReadsBack] (map : OrderedValue) (levels : Nat),
        map.value.toJson.depth ≤ levels →
          Json.parseWithin? levels map.value.compact = some map.value.toJson) ∧
      ofJson (number .nan).toJson = string "NaN" ∧
      ofJson (number (.infinite false)).toJson = string "Infinity" ∧
      ofJson (number (.infinite true)).toJson = string "-Infinity" ∧
      (∀ negative position, ofJson (number (.finite negative position)).toJson =
        number (if position.val = 0 then .zero else .finite negative position)) ∧
      (∀ document : Document,
        document.compact = document.toJson.compact ∧
          ∃ decoded, Document.ofJson document.toJson = .ok decoded ∧
            decoded = document.normalised ∧
            (decoded.toValue.equals document.toValue = true ↔ document.toValue.isFinite = true) ∧
            decoded.toJson = document.toJson) ∧
      ∀ [NumeralReader] [Json.ReadsBack] (document : OrderedDocument) (levels : Nat),
        document.toJson.depth ≤ levels →
          Json.parseWithin? levels document.compact = some document.toJson := by
  refine ⟨?_, fun {_ _} map _ => parseWithin?_compact map, rfl, rfl, rfl, ofJson_toJson_finite,
    ?_, fun {_ _} document _ => parseWithin?_compact document.toOrderedValue⟩
  · intro value
    exact ⟨(compact_toJson value).symm, ofJson_toJson value, equals_ofJson_toJson_iff value,
      toJson_ofJson_toJson value⟩
  · intro document
    refine ⟨(compact_toJson document.toValue).symm, document.normalised, document.ofJson_toJson,
      rfl, ?_, document.toJson_normalised⟩
    have isNormal : document.normalised.toValue = document.toValue.normalised := by
      rw [Document.toValue, Document.toValue, normalised]
      rfl
    rw [isNormal, equals_normalised_eq]

private def negativeZero : Number := .finite true ⟨0, Number.gridSize_pos⟩

private def half : Number := .ofDecimal false ⟨5, -1⟩

/-- NaN in an array, negative zero in an object, and a fraction beside them. -/
private def readings : OrderedDocument :=
  { fields :=
      [("at", .array [.number .nan, .null]), ("by", .object [("x", .number negativeZero)]),
        ("to", .number half)] }

section

attribute [local instance] NumeralReader.nearest

theorem encoding_exact_readings :
    readings.toJson.depth ≤ Json.nestingLimit ∧
      Json.parse? readings.compact = some (.object
        [("at", .array [.string "NaN", .null]), ("by", .object [("x", .integer 0)]),
          ("to", .decimal half)]) := by
  have shallow : readings.toJson.depth ≤ Json.nestingLimit := by decide +kernel
  refine ⟨shallow, ?_⟩
  have notWhole : half.whole? = none := by decide +kernel
  have isFinite : half.isFinite = true := by decide +kernel
  have fraction : jsonOfNumber half = .decimal half := by
    rw [jsonOfNumber, notWhole]
    exact if_pos isFinite
  have nothing : jsonOfNumber negativeZero = .integer 0 := by
    rw [jsonOfNumber, negativeZero, Number.whole?_of_position_zero rfl]
  have data : readings.toJson = .object
      [("at", .array [.string "NaN", .null]), ("by", .object [("x", .integer 0)]),
        ("to", .decimal half)] := by
    show Json.object [("at", .array [jsonOfNumber .nan, .null]),
      ("by", .object [("x", jsonOfNumber negativeZero)]), ("to", jsonOfNumber half)] = _
    rw [fraction, nothing]
    rfl
  rw [← data]
  exact encoding_exact.2.2.2.2.2.2.2 readings Json.nestingLimit shallow

end

end Value

end DocStore
