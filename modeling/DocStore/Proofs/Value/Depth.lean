import DocStore.Proofs.Json.Depth
import DocStore.Proofs.Value.Ordered

/-!
Contract: how deeply documents are nested.

Values keep the depth of their data in both directions. A document takes up the
depth of its data, and writing its key changes nothing about that.

Owns: the depth of values read from data, and of documents.
-/

namespace DocStore

namespace Value

theorem depth_jsonOfNumber (value : Number) : (jsonOfNumber value).depth = 0 := by
  unfold jsonOfNumber
  split
  · rfl
  · split <;> rfl

mutual

theorem depth_toJson_ofJson : ∀ json : Json, (ofJson json).toJson.depth = json.depth
  | .null | .bool _ | .string _ => rfl
  | .integer value => depth_jsonOfNumber (Number.ofInt value)
  | .decimal value => depth_jsonOfNumber value
  | .array items => by
      rw [ofJson, toJson, Json.depth, Json.depth, itemsDepth_itemsToJson_itemsOfJson]
  | .object members => by
      rw [ofJson, toJson, Json.depth, Json.depth, membersDepth_fieldsToJson_fieldsOfJson]

theorem itemsDepth_itemsToJson_itemsOfJson : ∀ items : List Json,
    Json.itemsDepth (itemsToJson (itemsOfJson items)) = Json.itemsDepth items
  | [] => rfl
  | item :: rest => by
      rw [itemsOfJson, itemsToJson, Json.itemsDepth, Json.itemsDepth, depth_toJson_ofJson item,
        itemsDepth_itemsToJson_itemsOfJson rest]

theorem membersDepth_fieldsToJson_fieldsOfJson : ∀ members : List (String × Json),
    Json.membersDepth (fieldsToJson (fieldsOfJson members)) = Json.membersDepth members
  | [] => rfl
  | (_, item) :: rest => by
      rw [fieldsOfJson, fieldsToJson, Json.membersDepth, Json.membersDepth,
        depth_toJson_ofJson item, membersDepth_fieldsToJson_fieldsOfJson rest]

end

theorem membersDepth_fieldsToJson_le_iff (fields : Fields) (bound : Nat) :
    Json.membersDepth (fieldsToJson fields) ≤ bound ↔
      ∀ field ∈ fields, field.2.toJson.depth ≤ bound := by
  induction fields with
  | nil => simp [fieldsToJson, Json.membersDepth]
  | cons field rest inductionHypothesis =>
      rw [fieldsToJson, Json.membersDepth, Nat.max_le, inductionHypothesis, List.forall_mem_cons]

end Value

/-! ## Documents -/

namespace Document

theorem depth_of_ofJson {json : Json} {document : Document}
    (read : ofJson json = .ok document) : document.toJson.depth = json.depth := by
  unfold toJson
  rw [toValue_of_ofJson read]
  exact Value.depth_toJson_ofJson json

/-- The key is no container, so it fits into the depth that a document has anyway. -/
theorem depth_withKey_le (document : Document) (key : String) :
    (document.withKey key).toJson.depth ≤ document.toJson.depth := by
  show (Json.object _).depth ≤ (Json.object _).depth
  rw [Json.depth, Json.depth]
  apply Nat.succ_le_succ
  rw [Value.membersDepth_fieldsToJson_le_iff]
  intro field member
  rcases Entries.mem_insert member with isKey | before
  · rw [isKey]
    exact Nat.zero_le _
  · exact (Value.membersDepth_fieldsToJson_le_iff document.fields _).1 (Nat.le_refl _) field before

/-- Where what stood in the place of the key is no container either, the depth stays. -/
theorem depth_withKey (document : OrderedDocument)
    (flat : ∀ value, Entries.find? keyField document.fields = some value →
      value.toJson.depth = 0) (key : String) :
    (document.withKey key).toJson.depth = document.toJson.depth := by
  have sorted := document.sorted_fields
  apply Nat.le_antisymm (document.depth_withKey_le key)
  show (Json.object _).depth ≤ (Json.object _).depth
  rw [Json.depth, Json.depth]
  apply Nat.succ_le_succ
  rw [Value.membersDepth_fieldsToJson_le_iff]
  rintro ⟨name, value⟩ member
  have found := (sorted.mem_iff_find? name value).1 member
  by_cases isKey : name = keyField
  · rw [isKey] at found
    rw [flat value found]
    exact Nat.zero_le _
  · have kept := Entries.find?_insert_of_ne isKey (.string key) document.fields
    rw [found] at kept
    exact (Value.membersDepth_fieldsToJson_le_iff _ _).1 (Nat.le_refl _) (name, value)
      (((sorted.insert keyField _).mem_iff_find? name value).2 kept)

end Document

end DocStore
