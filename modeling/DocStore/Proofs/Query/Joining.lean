import Mathlib.Data.List.Forall2
import DocStore.Proofs.Query.Pipeline
import DocStore.Proofs.Value.Canonical
import DocStore.Proofs.Value.Lens

/-!
Contract: a join step is the nested loop over both sides.

For every document the remote collection is gone through in key order, and the
remote documents that hold the same tree at their field are its partners. A
document with partners is given their list, which is read back where nothing is in
the way of the path, and any other comes through as it is.
The step looks its partners up in a table under canonical keys instead; that is
the same because a canonical key tells its value.

Owns: `Stage.IsPartner`, `Stage.JoinsTo` and the law of the join step.
-/

namespace DocStore

namespace Stage

/-- Both documents hold their fields of the join, and hold identical values there. -/
def IsPartner (spec : JoinSpec) (document other : Document) : Prop :=
  ∃ localValue remoteValue, document.get? spec.localField = some localValue ∧
    other.get? spec.remoteField = some remoteValue ∧ localValue.IsIdentical remoteValue

/-- What the nested loop makes of a document. -/
inductive JoinsTo (spec : JoinSpec) (remote : Snapshot) (document : Document) : Document → Prop
  /-- Without partners it comes through as it is. -/
  | alone (unmatched : ∀ key other, remote.find? key = some other →
      ¬IsPartner spec document other) : JoinsTo spec remote document document
  /-- Otherwise it is given all its partners, each once, in key order. -/
  | joined (partners : List (String × Document)) (nonempty : partners ≠ [])
      (listed : ∀ key other, (key, other) ∈ partners ↔
        remote.find? key = some other ∧ IsPartner spec document other)
      (inOrder : Entries.Sorted partners)
      (readBack : Path.IsReadable spec.asField →
        ¬document.toValue.Obstructs (Path.segments spec.asField) →
          (document.set spec.asField (.array (partners.map fun partner => partner.2.toValue))).get?
            spec.asField = some (.array (partners.map fun partner => partner.2.toValue))) :
      JoinsTo spec remote document
        (document.set spec.asField (.array (partners.map fun partner => partner.2.toValue)))

section

variable {spec : JoinSpec} {document : Document} {value : Value}

/-- Partners are told by the canonical key of their field. -/
theorem isPartner_iff (holds : document.get? spec.localField = some value) (other : Document) :
    IsPartner spec document other ↔
      (other.get? spec.remoteField).any (fun remoteValue =>
        remoteValue.canonicalKey == value.canonicalKey) = true := by
  rw [IsPartner, Option.any_eq_true]
  simp only [beq_iff_eq]
  constructor
  · rintro ⟨localValue, remoteValue, isLocal, isRemote, same⟩
    rw [holds, Option.some_inj] at isLocal
    subst isLocal
    exact ⟨remoteValue, isRemote, ((Value.isIdentical_iff value remoteValue).1 same).symm⟩
  · rintro ⟨remoteValue, isRemote, same⟩
    exact ⟨value, remoteValue, holds, isRemote, (Value.isIdentical_iff ..).2 same.symm⟩

/-- The partners of a document with their keys. -/
theorem exists_partners (holds : document.get? spec.localField = some value)
    (remote : Snapshot) :
    ∃ partners : List (String × Document),
      (∀ key other, (key, other) ∈ partners ↔
        remote.find? key = some other ∧ IsPartner spec document other) ∧
      Entries.Sorted partners ∧
      partners.map Prod.snd = partnersIn spec.remoteField value.canonicalKey remote.values := by
  let matching := remote.filter fun _ other =>
    (other.get? spec.remoteField).any fun remoteValue =>
      remoteValue.canonicalKey == value.canonicalKey
  refine ⟨matching.toList, ?_, matching.sorted, SortedMap.values_filter _ remote⟩
  intro key other
  rw [SortedMap.mem_toList_iff, SortedMap.find?_filter, Option.filter_eq_some_iff,
    isPartner_iff holds]

end

theorem joinsTo_attached (spec : JoinSpec) (remote : Snapshot) (document : Document) :
    JoinsTo spec remote document (attached spec remote.values document) := by
  unfold attached
  cases holds : document.get? spec.localField with
  | none =>
      apply JoinsTo.alone
      rintro _ other _ ⟨localValue, _, isLocal, _⟩
      rw [holds] at isLocal
      cases isLocal
  | some value =>
      obtain ⟨partners, listed, inOrder, sameValues⟩ := exists_partners holds remote
      simp only [← sameValues, List.isEmpty_map, List.map_map]
      cases partners with
      | nil =>
          apply JoinsTo.alone
          intro key other isRemote isPartner
          exact List.not_mem_nil ((listed key other).2 ⟨isRemote, isPartner⟩)
      | cons first rest =>
          exact .joined (first :: rest) (List.cons_ne_nil first rest) listed inOrder
            (Document.get?_set_self _)

end Stage

namespace Query

/-- A join step yields the upstream documents in their order, each as the nested loop over the
remote collection makes it. -/
theorem applyStep_join_exact {source : Source} {database collection : String} {stream : Stream}
    {documents : List Document} {remote : Snapshot} (settings : Settings) (spec : JoinSpec)
    (brought : broughtIn source database collection stream = .ok documents)
    (found : source.snapshot database spec.collection = .ok remote) :
    ∃ outputs,
      applyStep source settings database collection stream (.join spec) =
        .ok (.derived outputs) ∧
      List.Forall₂ (Stage.JoinsTo spec remote) documents outputs := by
  refine ⟨documents.map (Stage.attached spec remote.values), ?_, ?_⟩
  · rw [applyStep, brought]
    simp only [bind, Except.bind, found, Stage.withPartners_partnersOf]
  · rw [List.forall₂_map_right_iff, List.forall₂_same]
    exact fun document _ => Stage.joinsTo_attached spec remote document

private def users : List Document :=
  [⟨[("k", .array [.number (.finite true ⟨0, Number.gridSize_pos⟩)])]⟩, ⟨[]⟩]

private def listedOrder : Document :=
  ⟨[("_id", .string "o1"), ("user", .array [.number .zero])]⟩

private def orders : Snapshot :=
  ⟨[("o1", listedOrder), ("o2", ⟨[("_id", .string "o2"), ("user", .string "u")]⟩),
    ("o3", ⟨[("_id", .string "o3")]⟩)], by decide⟩

private def bookkeeping : Store :=
  [.insert "d" "orders" "o2" { fields := [("user", .string "u")] },
    .insert "d" "orders" "o1" { fields := [("user", .array [.number .zero])] },
    .insert "d" "orders" "o3" {}].foldl Store.after Store.empty

private def withOrders : JoinSpec := ⟨"orders", "k", "user", "orders"⟩

/-- Lists are told apart by their items, among which the zeros are one number; a document without
the field has no partners, whoever lacks it too. -/
theorem applyStep_join_exact_listed_zero :
    bookkeeping.source.snapshot "d" "orders" = .ok orders ∧
      Stage.IsPartner withOrders users[0] listedOrder ∧
      ∃ outputs,
        applyStep bookkeeping.source ⟨true, '-'⟩ "d" "users" (.derived users) (.join withOrders) =
          .ok (.derived outputs) ∧
        List.Forall₂ (Stage.JoinsTo withOrders orders) users outputs := by
  have found : bookkeeping.source.snapshot "d" "orders" = .ok orders := by rfl
  have isPartner : Stage.IsPartner withOrders users[0] listedOrder := ⟨_, _, rfl, rfl, rfl⟩
  exact ⟨found, isPartner, applyStep_join_exact ⟨true, '-'⟩ withOrders rfl found⟩

end Query

end DocStore
