import DocStore.Json.Decoding
import DocStore.Proofs.Json.Reading
import DocStore.Proofs.Json.RoundTrip

/-!
Contract: what the views of records and choices give.

A name is read back as its choice when no two choices share a name. Whatever is
taken out of faithful data, be it a field of a record, a tag, or the record that
is left without the tag, is faithful again, and so is all that a text is read as.

Owns: `Json.Names`, and faithfulness of the parts of records.
-/

namespace DocStore.Json

/-! ## Names -/

/-- Every choice is listed, and no two of them have one name. -/
structure Names {Choice : Type} (all : List Choice) (name : Choice → String) : Prop where
  listed : ∀ choice, choice ∈ all
  distinct : (all.map name).Nodup

theorem choice?_of_nodup {Choice : Type} {all : List Choice} {name : Choice → String}
    (distinct : (all.map name).Nodup) {choice : Choice} (listed : choice ∈ all) :
    choice? all name (name choice) = some choice := by
  induction all with
  | nil => cases listed
  | cons first rest inductionHypothesis =>
      rw [List.map_cons, List.nodup_cons] at distinct
      unfold choice? at inductionHypothesis ⊢
      rcases List.mem_cons.1 listed with isFirst | inRest
      · rw [← isFirst]
        exact List.find?_cons_of_pos (beq_self_eq_true (name choice))
      · have different : name first ≠ name choice := by
          intro same
          apply distinct.1
          rw [same]
          exact List.mem_map_of_mem inRest
        rw [List.find?_cons_of_neg (by simpa using different)]
        exact inductionHypothesis distinct.2 inRest

section Names

variable {Choice : Type} {all : List Choice} {name : Choice → String}

theorem Names.plainChoice? (names : Names all name) (noData : NoData) (choice : Choice) :
    plainChoice? noData all name (.string (name choice)) = some choice :=
  choice?_of_nodup names.distinct (names.listed choice)

theorem Names.tag? (names : Names all name) (numbered : Bool) (choice : Choice) :
    tag? numbered all name (.string (name choice)) = some choice :=
  choice?_of_nodup names.distinct (names.listed choice)

end Names

/-! ## Lists -/

/-- A list of data is read item by item. -/
theorem mapM_map_of_reads {Item : Type} {write : Item → Json} {read : Json → Option Item}
    {normalise : Item → Item} (reads : ∀ item, read (write item) = some (normalise item))
    (items : List Item) : (items.map write).mapM read = some (items.map normalise) := by
  induction items with
  | nil => rfl
  | cons item rest inductionHypothesis =>
      rw [List.map_cons, List.mapM_cons, reads, inductionHypothesis]
      rfl

theorem forall_of_mapM {Item : Type} {read : Json → Option Item} {fine : Json → Prop}
    {good : Item → Prop} (reads : ∀ json item, fine json → read json = some item → good item)
    {data : List Json} {items : List Item} (allFine : ∀ json ∈ data, fine json)
    (allRead : data.mapM read = some items) : ∀ item ∈ items, good item := by
  induction data generalizing items with
  | nil =>
      cases allRead
      exact fun item member => absurd member List.not_mem_nil
  | cons json rest inductionHypothesis =>
      rw [List.forall_mem_cons] at allFine
      simp only [List.mapM_cons, Option.bind_eq_bind, Option.bind_eq_some_iff] at allRead
      rcases allRead with ⟨item, isItem, others, areOthers, same⟩
      rw [← Option.some.inj same, List.forall_mem_cons]
      exact ⟨reads json item allFine.1 isItem, inductionHypothesis allFine.2 areOthers⟩

/-! ## Parts of faithful data -/

theorem itemsFaithful_iff (items : List Json) :
    itemsFaithful items = true ↔ ∀ item ∈ items, item.isFaithful = true := by
  induction items with
  | nil => simp [itemsFaithful]
  | cons item rest inductionHypothesis => simp [itemsFaithful, inductionHypothesis]

theorem membersFaithful_iff (members : List (String × Json)) :
    membersFaithful members = true ↔ ∀ member ∈ members, member.2.isFaithful = true := by
  induction members with
  | nil => simp [membersFaithful]
  | cons member rest inductionHypothesis =>
      obtain ⟨key, item⟩ := member
      simp [membersFaithful, inductionHypothesis]

theorem isFaithful_array_iff (items : List Json) :
    (array items).isFaithful = true ↔ ∀ item ∈ items, item.isFaithful = true := by
  rw [isFaithful, itemsFaithful_iff]

theorem isFaithful_object_iff (members : List (String × Json)) :
    (object members).isFaithful = true ↔
      Entries.Sorted members ∧ ∀ member ∈ members, member.2.isFaithful = true := by
  rw [isFaithful, Bool.and_eq_true, decide_eq_true_iff, membersFaithful_iff]

/-- Whatever is read from a text is faithful. -/
theorem isFaithful_of_parse? [NumeralReader] {text : String} {json : Json}
    (read : parse? text = some json) : json.isFaithful = true := by
  have inherited : Inherited fun _ json => json.isFaithful = true := by
    constructor
    · intro _ json literal
      cases json with
      | integer value => exact literal
      | decimal value => exact literal
      | array items => cases literal
      | object members => cases literal
      | _ => rfl
    · exact fun _ items faithful => (isFaithful_array_iff items).2 faithful
    · exact fun _ members sorted faithful => (isFaithful_object_iff members).2 ⟨sorted, faithful⟩
  exact inherited.of_parse? read

section Parts

variable {json : Json}

theorem isFaithful_of_find? {members : List (String × Json)} {key : String} {item : Json}
    (faithful : (object members).isFaithful = true)
    (found : Entries.find? key members = some item) : item.isFaithful = true := by
  rw [isFaithful_object_iff] at faithful
  exact faithful.2 _ ((faithful.1.mem_iff_find? key item).2 found)

theorem isFaithful_of_items {items : List Json} (faithful : json.isFaithful = true)
    (read : json.items = some items) : ∀ item ∈ items, item.isFaithful = true := by
  cases json with
  | array found =>
      rw [← Option.some.inj read]
      exact (isFaithful_array_iff found).1 faithful
  | _ => cases read

theorem isFaithful_of_record? {names : List String} {fields : List (Option Json)}
    (faithful : json.isFaithful = true) (read : json.record? names = some fields) :
    ∀ field, some field ∈ fields → field.isFaithful = true := by
  intro field member
  cases json with
  | object members =>
      rw [← Option.some.inj read] at member
      rcases List.mem_map.1 member with ⟨name, -, found⟩
      exact isFaithful_of_find? faithful found
  | array items =>
      rw [record?] at read
      split at read
      · rw [← Option.some.inj read, List.mem_append, List.mem_map] at member
        rcases member with ⟨item, inItems, same⟩ | isMissing
        · rw [← Option.some.inj same]
          exact (isFaithful_array_iff items).1 faithful item inItems
        · cases List.eq_of_mem_replicate isMissing
      · cases read
  | _ => cases read

theorem isFaithful_of_tagged? {tag body : Json} (faithful : json.isFaithful = true)
    (read : json.tagged? = some (tag, body)) : tag.isFaithful = true ∧ body.isFaithful = true := by
  cases json with
  | object members =>
      simp only [tagged?, Option.map_eq_some_iff, Prod.mk.injEq] at read
      rcases read with ⟨found, isFound, isTag, isBody⟩
      rw [← isTag, ← isBody, isFaithful_object_iff]
      refine ⟨isFaithful_of_find? faithful isFound, ?_, ?_⟩
      · exact ((isFaithful_object_iff ..).1 faithful).1.erase "type"
      · intro member inside
        exact ((isFaithful_object_iff ..).1 faithful).2 member (List.mem_filter.1 inside).1
  | array items =>
      cases items with
      | nil => cases read
      | cons first rest =>
          rw [isFaithful_array_iff, List.forall_mem_cons] at faithful
          rcases Prod.mk.inj (Option.some.inj read) with ⟨isTag, isBody⟩
          rw [← isTag, ← isBody, isFaithful_array_iff]
          exact faithful
  | _ => cases read

end Parts

end DocStore.Json
