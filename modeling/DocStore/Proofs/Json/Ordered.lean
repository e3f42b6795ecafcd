import DocStore.Proofs.Json.Reading

/-!
Contract: JSON data whose objects list their members in key order.

Readers collect the members of an object in key order, so whatever is read from
a text is ordered at every depth.

Owns: `Json.isOrdered` and its law for the reader.
-/

namespace DocStore

namespace Json

mutual

/-- Whether the members of every object stand in strictly increasing key order. -/
def isOrdered : Json → Bool
  | array items => itemsOrdered items
  | object members => decide (Entries.Sorted members) && membersOrdered members
  | _ => true

def itemsOrdered : List Json → Bool
  | [] => true
  | item :: rest => item.isOrdered && itemsOrdered rest

def membersOrdered : List (String × Json) → Bool
  | [] => true
  | (_, item) :: rest => item.isOrdered && membersOrdered rest

end

theorem itemsOrdered_iff (items : List Json) :
    itemsOrdered items = true ↔ ∀ item ∈ items, item.isOrdered = true := by
  induction items with
  | nil => simp [itemsOrdered]
  | cons item rest inductionHypothesis => simp [itemsOrdered, inductionHypothesis]

theorem membersOrdered_iff (members : List (String × Json)) :
    membersOrdered members = true ↔ ∀ member ∈ members, member.2.isOrdered = true := by
  induction members with
  | nil => simp [membersOrdered]
  | cons member rest inductionHypothesis =>
      obtain ⟨key, item⟩ := member
      simp [membersOrdered, inductionHypothesis]

/-! ## What a reader makes -/

theorem inherited_isOrdered : Inherited fun _ json => json.isOrdered = true where
  literal := by
    intro _ json literal
    cases json with
    | array items => cases literal
    | object members => cases literal
    | _ => rfl
  array := fun _ items ordered => (itemsOrdered_iff items).2 ordered
  object := by
    intro _ members sorted ordered
    rw [isOrdered, Bool.and_eq_true, decide_eq_true_iff, membersOrdered_iff]
    exact ⟨sorted, ordered⟩

/-- Whatever is read from a text is ordered. -/
theorem isOrdered_of_parse? [NumeralReader] {text : String} {json : Json}
    (read : parse? text = some json) : json.isOrdered = true :=
  inherited_isOrdered.of_parse? read

end Json

end DocStore
