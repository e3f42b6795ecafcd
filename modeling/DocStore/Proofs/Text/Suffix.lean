import DocStore.Text.Suffix

/-!
Contract: what is left of a text without its ending.

Owns: the laws of `Text.endsWith`, `Text.withoutSuffix?` and `Text.withoutSuffixes`.
-/

namespace DocStore.Text

theorem endsWith_iff (text suffix : String) :
    endsWith text suffix = true ↔ ∃ stem, text = stem ++ suffix := by
  unfold endsWith
  rw [List.isSuffixOf_iff_suffix]
  constructor
  · rintro ⟨stem, shape⟩
    refine ⟨String.ofList stem, ?_⟩
    rw [← String.toList_inj, String.toList_append, String.toList_ofList, shape]
  · rintro ⟨stem, shape⟩
    exact ⟨stem.toList, by rw [shape, String.toList_append]⟩

theorem withoutSuffix?_append (stem suffix : String) :
    withoutSuffix? suffix (stem ++ suffix) = some stem := by
  have ends : suffix.toList.isSuffixOf (stem ++ suffix).toList = true :=
    (endsWith_iff (stem ++ suffix) suffix).2 ⟨stem, rfl⟩
  unfold withoutSuffix?
  simp only [ends, reduceIte]
  rw [String.toList_append, List.length_append, Nat.add_sub_cancel, List.take_left,
    String.ofList_toList]

theorem withoutSuffix?_eq_none_iff (suffix text : String) :
    withoutSuffix? suffix text = none ↔ endsWith text suffix = false := by
  unfold withoutSuffix? endsWith
  cases suffix.toList.isSuffixOf text.toList <;> simp

theorem withoutSuffix?_eq_some_iff (suffix text stem : String) :
    withoutSuffix? suffix text = some stem ↔ text = stem ++ suffix := by
  constructor
  · intro found
    cases ends : endsWith text suffix with
    | false =>
        rw [(withoutSuffix?_eq_none_iff suffix text).2 ends] at found
        cases found
    | true =>
        obtain ⟨other, shape⟩ := (endsWith_iff text suffix).1 ends
        rw [shape, withoutSuffix?_append] at found
        rw [shape, Option.some.inj found]
  · intro shape
    rw [shape]
    exact withoutSuffix?_append stem suffix

theorem withoutSuffixes_of_not_endsWith {suffix text : String}
    (bare : endsWith text suffix = false) (bound : Nat) :
    withoutSuffixes suffix bound text = text := by
  cases bound with
  | zero => rfl
  | succ bound =>
      rw [withoutSuffixes, (withoutSuffix?_eq_none_iff suffix text).2 bare]

/-- An ending that stands there once is taken off once. -/
theorem withoutSuffixes_append {suffix stem : String} (bare : endsWith stem suffix = false)
    (bound : Nat) : withoutSuffixes suffix (bound + 1) (stem ++ suffix) = stem := by
  rw [withoutSuffixes, withoutSuffix?_append]
  exact withoutSuffixes_of_not_endsWith bare bound

/-- What is left of a text was in it before. -/
theorem mem_of_mem_withoutSuffixes {suffix : String} {character : Char} (bound : Nat) :
    ∀ {text : String}, character ∈ (withoutSuffixes suffix bound text).toList →
      character ∈ text.toList := by
  induction bound with
  | zero => exact fun member => member
  | succ bound inductionHypothesis =>
      intro text member
      rw [withoutSuffixes] at member
      split at member
      next shorter isShorter =>
        rw [(withoutSuffix?_eq_some_iff ..).1 isShorter, String.toList_append]
        exact List.mem_append_left _ (inductionHypothesis member)
      next => exact member

/-- With enough repetitions allowed nothing is left of an ending. -/
theorem not_endsWith_withoutSuffixes {suffix : String} (occupied : 0 < suffix.toList.length)
    (bound : Nat) : ∀ text : String, text.toList.length ≤ bound →
      endsWith (withoutSuffixes suffix bound text) suffix = false := by
  have tooShort : ∀ text : String, text.toList.length < suffix.toList.length →
      endsWith text suffix = false := by
    intro text short
    cases ends : endsWith text suffix with
    | false => rfl
    | true =>
        obtain ⟨stem, shape⟩ := (endsWith_iff text suffix).1 ends
        rw [shape, String.toList_append, List.length_append] at short
        omega
  induction bound with
  | zero =>
      intro text short
      apply tooShort
      rw [withoutSuffixes]
      omega
  | succ bound inductionHypothesis =>
      intro text short
      rw [withoutSuffixes]
      split
      next shorter found =>
        apply inductionHypothesis
        rw [(withoutSuffix?_eq_some_iff ..).1 found, String.toList_append,
          List.length_append] at short
        omega
      next missing => exact (withoutSuffix?_eq_none_iff ..).1 missing

end DocStore.Text
