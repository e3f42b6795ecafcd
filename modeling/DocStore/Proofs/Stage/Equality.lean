import DocStore.Proofs.Comparison
import DocStore.Proofs.Stage.Grouping
import DocStore.Proofs.Text.LetterCase
import DocStore.Proofs.Value.Canonical

/-!
Contract: documents share a group exactly when their values compare as equal.

The first letter of a bucket key tells the kind of its value, and values of
different kinds are never equal. Texts are equal, and grouped together, by their
lower-case forms; everything else is by its canonical key. Only arrays, which
equal nothing, and the number that is not one are left out.

Owns: `Value.isEquatable`, and what bucket keys have to do with `Comparison.equals`.
-/

namespace DocStore

/-- Whether a value can equal anything: arrays and NaN do not. -/
def Value.isEquatable : Value → Bool
  | array _ => false
  | number value => !value.isNaN
  | _ => true

theorem Kind.tag_inj {left right : Kind} (same : left.tag = right.tag) : left = right := by
  cases left <;> cases right <;> first | rfl | exact absurd same (by decide)

namespace Stage

/-- A bucket key begins with the letter of the kind. -/
theorem head?_bucketKey (value : Value) :
    (bucketKey value).toList.head? = some value.kind.tag := by
  cases value with
  | string text =>
      rw [bucketKey, String.toList_append]
      rfl
  | _ =>
      simp only [bucketKey, Value.canonicalKey, String.toList_ofList]
      rfl

theorem kind_eq_of_bucketKey_eq {left right : Value} (same : bucketKey left = bucketKey right) :
    left.kind = right.kind := by
  apply Kind.tag_inj
  rw [← Option.some_inj, ← head?_bucketKey, same, head?_bucketKey]

theorem bucketKey_string_eq_iff (left right : String) :
    bucketKey (.string left) = bucketKey (.string right) ↔
      Text.lowercase left = Text.lowercase right := by
  rw [bucketKey, bucketKey, ← String.toList_inj, String.toList_append, String.toList_append,
    List.append_cancel_left_eq, String.toList_inj]

/-- Values that can be equal are exactly when they share their bucket key. -/
theorem bucketKey_eq_iff_equals {left right : Value} (leftEquatable : left.isEquatable = true)
    (rightEquatable : right.isEquatable = true) :
    bucketKey left = bucketKey right ↔ Comparison.equals.holds right left = true := by
  by_cases sameKind : left.kind = right.kind
  · cases left with
    | null =>
        cases right with
        | null => exact ⟨fun _ => rfl, fun _ => rfl⟩
        | _ => cases sameKind
    | bool left =>
        cases right with
        | bool right =>
            have holds : Comparison.equals.holds (.bool right) (.bool left) = (right == left) := rfl
            show (Value.bool left).canonicalKey = (Value.bool right).canonicalKey ↔ _
            rw [Value.canonicalKey_eq_iff, holds, beq_iff_eq]
            exact ⟨fun same => (Value.bool.inj same).symm, fun same => by rw [same]⟩
        | _ => cases sameKind
    | number left =>
        cases right with
        | number right =>
            have holds : Comparison.equals.holds (.number right) (.number left) =
              right.equals left := rfl
            rw [Value.isEquatable] at leftEquatable rightEquatable
            show (Value.number left).canonicalKey = (Value.number right).canonicalKey ↔ _
            rw [Value.canonicalKey_eq_iff, Value.withoutNegativeZero, Value.withoutNegativeZero,
              Value.number.injEq, Number.withoutNegativeZero_eq_iff, holds, Number.equals,
              leftEquatable, rightEquatable, Bool.and_self, Bool.true_and, beq_iff_eq]
            exact eq_comm
        | _ => cases sameKind
    | string left =>
        cases right with
        | string right =>
            have holds : Comparison.equals.holds (.string right) (.string left) =
              Text.equalIgnoringCase right left := rfl
            rw [bucketKey_string_eq_iff, holds, Text.equalIgnoringCase_iff]
            exact eq_comm
        | _ => cases sameKind
    | array items => cases leftEquatable
    | object left =>
        cases right with
        | object right =>
            have holds : Comparison.equals.holds (.object right) (.object left) =
              ((Value.object right).canonicalKey == (Value.object left).canonicalKey) := rfl
            rw [holds, beq_iff_eq]
            exact eq_comm
        | _ => cases sameKind
  · constructor
    · exact fun same => absurd (kind_eq_of_bucketKey_eq same) sameKind
    · exact fun equal => absurd (Comparison.kind_eq_of_equals equal).symm sameKind

/-- Documents whose values at the field can be equal share a bucket exactly when these values are
equal, and are listed by one and the same group exactly then. On such values equality is an
equivalence relation. -/
theorem sharesBucket_iff_equals :
    (∀ (field : String) (documents : List Document) (left right : Document)
        (leftValue rightValue : Value), left ∈ documents → right ∈ documents →
        left.get? field = some leftValue → right.get? field = some rightValue →
        leftValue.isEquatable = true → rightValue.isEquatable = true →
          ((∃ bucket ∈ buckets field documents, left ∈ bucket.members ∧ right ∈ bucket.members) ↔
            Comparison.equals.holds rightValue leftValue = true) ∧
          ((∃ group ∈ groupBy field documents, IsListedIn left group ∧ IsListedIn right group) ↔
            Comparison.equals.holds rightValue leftValue = true)) ∧
      Equivalence fun left right : {value : Value // value.isEquatable = true} =>
        Comparison.equals.holds right.val left.val = true := by
  have byKeys : ∀ left right : {value : Value // value.isEquatable = true},
      Comparison.equals.holds right.val left.val = true ↔
        bucketKey left.val = bucketKey right.val := fun left right =>
    (bucketKey_eq_iff_equals left.property right.property).symm
  refine ⟨?_, ?_, ?_, ?_⟩
  · intro field documents left right leftValue rightValue isLeft isRight leftHolds rightHolds
      leftEquatable rightEquatable
    rw [exists_group_iff, exists_bucket_iff isLeft isRight leftHolds rightHolds,
      bucketKey_eq_iff_equals leftEquatable rightEquatable]
    exact ⟨Iff.rfl, Iff.rfl⟩
  · exact fun value => (byKeys value value).2 rfl
  · intro left right equal
    exact (byKeys right left).2 ((byKeys left right).1 equal).symm
  · intro first second third firstEqual secondEqual
    exact (byKeys first third).2
      (((byKeys first second).1 firstEqual).trans ((byKeys second third).1 secondEqual))

/-- The sign of the unit kelvin is beyond ASCII and lower-cased to an ASCII letter: it is equal to
that letter and to its capital, and grouped with them. -/
theorem sharesBucket_iff_equals_kelvin :
    let documents : List Document :=
      [⟨[("unit", .string "K")]⟩, ⟨[("unit", .string "m")]⟩, ⟨[("unit", .string "\u212a")]⟩]
    (∃ bucket ∈ buckets "unit" documents, documents[0] ∈ bucket.members ∧
        documents[2] ∈ bucket.members) ∧
      (∃ group ∈ groupBy "unit" documents, IsListedIn documents[0] group ∧
        IsListedIn documents[2] group) ∧
      Comparison.equals.holds (.string "K") (.string "k") = true := by
  intro documents
  obtain ⟨shares, equivalence⟩ := sharesBucket_iff_equals
  have equal : Comparison.equals.holds (.string "\u212a") (.string "K") = true := by
    decide +kernel
  have together := shares "unit" documents documents[0] documents[2] (.string "K")
    (.string "\u212a") (List.getElem_mem _) (List.getElem_mem _) rfl rfl rfl rfl
  refine ⟨together.1.2 equal, together.2.2 equal, ?_⟩
  · exact equivalence.trans (x := ⟨.string "k", rfl⟩) (y := ⟨.string "\u212a", rfl⟩)
      (z := ⟨.string "K", rfl⟩) (by decide +kernel) (by decide +kernel)

end Stage

end DocStore
