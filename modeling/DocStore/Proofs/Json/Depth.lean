import DocStore.Proofs.Json.Reading
import DocStore.Proofs.Json.RoundTrip

/-!
Contract: how deeply data is nested that comes from a text.

A reader opens at most as many containers as it is allowed, so what is read is
nested no deeper. A text of faithful data is refused when the data is.

Owns: the laws of `Json.depth`, and the limit of `Json.parse?`.
-/

namespace DocStore.Json

theorem itemsDepth_le_iff (items : List Json) (bound : Nat) :
    itemsDepth items ≤ bound ↔ ∀ item ∈ items, item.depth ≤ bound := by
  induction items with
  | nil => simp [itemsDepth]
  | cons item rest inductionHypothesis =>
      rw [itemsDepth, Nat.max_le, inductionHypothesis, List.forall_mem_cons]

theorem membersDepth_le_iff (members : List (String × Json)) (bound : Nat) :
    membersDepth members ≤ bound ↔ ∀ member ∈ members, member.2.depth ≤ bound := by
  induction members with
  | nil => simp [membersDepth]
  | cons member rest inductionHypothesis =>
      rw [membersDepth, Nat.max_le, inductionHypothesis, List.forall_mem_cons]

/-- A reader opens no more containers than it is allowed. -/
theorem inherited_depth_le : Inherited fun levels json => json.depth ≤ levels where
  literal := by
    intro levels json literal
    cases json with
    | array items => cases literal
    | object members => cases literal
    | _ => exact Nat.zero_le levels
  array := fun _ items within => Nat.succ_le_succ ((itemsDepth_le_iff items _).2 within)
  object := fun _ members _ within => Nat.succ_le_succ ((membersDepth_le_iff members _).2 within)

/-- Whatever is read from a text is nested within the limit. -/
theorem depth_le_of_parse? [NumeralReader] {text : String} {json : Json}
    (read : parse? text = some json) : json.depth ≤ nestingLimit :=
  inherited_depth_le.of_parse? read

/-- Faithful data that is nested too deeply is not read back from its text. -/
theorem parse?_pretty_of_deep [NumeralReader] [ReadsBack] {json : Json}
    (faithful : json.isFaithful = true) (deep : nestingLimit < json.depth) :
    parse? json.pretty = none := by
  cases read : parse? json.pretty with
  | none => rfl
  | some other =>
      have bounded := depth_le_of_parse? read
      have again : parseWithin? json.depth json.pretty = some other :=
        parseWithin?_of_le (Nat.le_of_lt deep) read
      rw [parseWithin?_pretty faithful (Nat.le_refl _), Option.some.injEq] at again
      rw [← again] at bounded
      omega

end DocStore.Json
