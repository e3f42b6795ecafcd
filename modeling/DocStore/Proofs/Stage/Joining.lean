import DocStore.Stage.Joining
import DocStore.Proofs.SortedMap.Reading

/-!
Contract: a join attaches the remote documents with the local key.

The table of partners is a way to find, for each document, the remote documents
whose field has the canonical key of its own. Read directly off the remote list
they are the same documents in the same order.

Owns: `partnersIn`, `attached` and the law of the table.
-/

namespace DocStore.Stage

/-- The remote documents whose field has a canonical key. -/
def partnersIn (remoteField key : String) (remote : List Document) : List Document :=
  remote.filter fun other => (other.get? remoteField).any fun value => value.canonicalKey == key

/-- A document with the remote documents that share its local key, if there are any. -/
def attached (spec : JoinSpec) (remote : List Document) (document : Document) : Document :=
  match document.get? spec.localField with
  | none => document
  | some value =>
      let partners := partnersIn spec.remoteField value.canonicalKey remote
      if partners.isEmpty then document
      else document.set spec.asField (.array (partners.map Document.toValue))

theorem find?_addPartner (remoteField : String) (partners : Partners) (remote : Document)
    (key : String) :
    ((addPartner remoteField partners remote).find? key).getD [] =
      (partners.find? key).getD [] ++ partnersIn remoteField key [remote] := by
  unfold addPartner partnersIn
  cases atField : remote.get? remoteField with
  | none => simp [atField]
  | some value =>
      simp only [SortedMap.find?_insert]
      by_cases same : key = value.canonicalKey
      · simp [atField, same]
      · simp [atField, same, Ne.symm same]

/-- No key of the table is without partners. -/
theorem ne_nil_of_find?_addPartner {remoteField : String} {partners : Partners}
    (occupied : ∀ key found, partners.find? key = some found → found ≠ []) (remote : Document) :
    ∀ key found, (addPartner remoteField partners remote).find? key = some found →
      found ≠ [] := by
  intro key found atKey
  unfold addPartner at atKey
  split at atKey
  next value _ =>
    simp only [SortedMap.find?_insert] at atKey
    split at atKey
    · rw [← Option.some.inj atKey]
      simp
    · exact occupied key found atKey
  next => exact occupied key found atKey

theorem find?_partnersOf (remoteField : String) (remote : List Document) (key : String) :
    (partnersOf remoteField remote).find? key =
      if (partnersIn remoteField key remote).isEmpty then none
      else some (partnersIn remoteField key remote) := by
  have collected : ∀ partners : Partners,
      (∀ key found, partners.find? key = some found → found ≠ []) →
        ((remote.foldl (addPartner remoteField) partners).find? key).getD [] =
            (partners.find? key).getD [] ++ partnersIn remoteField key remote ∧
          ∀ found, (remote.foldl (addPartner remoteField) partners).find? key = some found →
            found ≠ [] := by
    induction remote with
    | nil =>
        intro partners occupied
        exact ⟨by simp [partnersIn], fun found => occupied key found⟩
    | cons first rest inductionHypothesis =>
        intro partners occupied
        obtain ⟨listed, occupiedAfter⟩ := inductionHypothesis (addPartner remoteField partners first)
          (ne_nil_of_find?_addPartner occupied first)
        refine ⟨?_, occupiedAfter⟩
        rw [List.foldl_cons, listed, find?_addPartner, List.append_assoc]
        unfold partnersIn
        rw [← List.filter_append, List.singleton_append]
  obtain ⟨listed, occupied⟩ := collected SortedMap.empty (fun _ _ absurdity => by cases absurdity)
  rw [SortedMap.find?_empty, Option.getD_none, List.nil_append] at listed
  unfold partnersOf
  cases atKey : (remote.foldl (addPartner remoteField) SortedMap.empty).find? key with
  | none =>
      rw [atKey, Option.getD_none] at listed
      rw [← listed]
      rfl
  | some found =>
      have isOccupied := occupied found atKey
      rw [atKey, Option.getD_some] at listed
      rw [← listed, if_neg (by simpa using isOccupied)]

/-- A single document is a partner exactly under the canonical key of its field. -/
theorem contains_partnersOf_iff {field : String} {document : Document} {value : Value}
    (holds : document.get? field = some value) (key : String) :
    (partnersOf field [document]).contains key = true ↔ key = value.canonicalKey := by
  rw [SortedMap.contains, find?_partnersOf, partnersIn]
  by_cases same : key = value.canonicalKey
  · simp [holds, same]
  · simp [holds, same, Ne.symm same]

theorem withPartners_partnersOf (spec : JoinSpec) (remote : List Document) :
    withPartners spec (partnersOf spec.remoteField remote) = attached spec remote := by
  funext document
  unfold withPartners attached
  cases document.get? spec.localField with
  | none => rfl
  | some value =>
      simp only [Option.bind_some, find?_partnersOf]
      cases (partnersIn spec.remoteField value.canonicalKey remote).isEmpty <;> rfl

end DocStore.Stage
