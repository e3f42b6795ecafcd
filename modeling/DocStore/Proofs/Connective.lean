import DocStore.Connective
import DocStore.Proofs.SortedMap.Reading

/-!
Contract: set algebra and verdicts say the same.

Drawing verdicts one at a time comes to the same as looking at all of them, and
the verdicts that are not drawn make no difference. A key of the whole is
selected by joined sets exactly when the verdicts on that key are joined to a
true one; only the negations look at the whole. So neither the order of the sets
nor the way they are walked shows in the result, and a negation selects what its
positive counterpart leaves of the whole.

Owns: the plain meaning of verdicts, and the law of `joinSets`.
-/

namespace DocStore

namespace Connective

/-! ## Verdicts drawn one at a time -/

theorem found_seek (wanted : Bool) (verdicts : List Bool) :
    (seek wanted verdicts).1 = verdicts.contains wanted := by
  induction verdicts with
  | nil => rfl
  | cons verdict rest inductionHypothesis =>
      rw [seek, List.contains_cons, ← inductionHypothesis]
      cases wanted <;> cases verdict <;> rfl

theorem single_seekSingle (verdicts : List Bool) :
    (seekSingle verdicts).1 = (verdicts.count true == 1) := by
  induction verdicts with
  | nil => rfl
  | cons verdict rest inductionHypothesis =>
      cases verdict with
      | false => simpa [seekSingle] using inductionHypothesis
      | true =>
          have second : (seek true rest).1 = !(rest.count true == 0) := by
            rw [found_seek, Bool.eq_iff_iff]
            simp [List.count_eq_zero]
          simp [seekSingle, second]

/-- No verdicts at all are not joined to a true one by conjunction. -/
theorem verdict_and (verdicts : List Bool) :
    and.verdict verdicts = (!verdicts.isEmpty && verdicts.all id) := by
  cases verdicts with
  | nil => rfl
  | cons first rest =>
      show (!(seek false (first :: rest)).1) = (first :: rest).all id
      rw [found_seek, Bool.eq_iff_iff]
      simp

theorem verdict_or (verdicts : List Bool) : or.verdict verdicts = verdicts.any id := by
  show (seek true verdicts).1 = verdicts.any id
  rw [found_seek, Bool.eq_iff_iff]
  simp

theorem verdict_xor (verdicts : List Bool) :
    xor.verdict verdicts = (verdicts.count true == 1) :=
  single_seekSingle verdicts

theorem verdict_nor (verdicts : List Bool) : nor.verdict verdicts = !or.verdict verdicts := rfl

theorem verdict_nand (verdicts : List Bool) : nand.verdict verdicts = !and.verdict verdicts := by
  cases verdicts with
  | nil => rfl
  | cons first rest =>
      show (seek false (first :: rest)).1 = !!(seek false (first :: rest)).1
      rw [Bool.not_not]

/-- What a connective says of verdicts when it looks at all of them. -/
def plainVerdict : Connective → List Bool → Bool
  | and, verdicts => !verdicts.isEmpty && verdicts.all id
  | or, verdicts => verdicts.any id
  | xor, verdicts => verdicts.count true == 1
  | nor, verdicts => !verdicts.any id
  | nand, verdicts => verdicts.isEmpty || !verdicts.all id

theorem verdict_eq_plainVerdict (connective : Connective) (verdicts : List Bool) :
    connective.verdict verdicts = connective.plainVerdict verdicts := by
  cases connective with
  | and => exact verdict_and verdicts
  | or => exact verdict_or verdicts
  | xor => exact verdict_xor verdicts
  | nor => rw [verdict_nor, verdict_or, plainVerdict]
  | nand => rw [verdict_nand, verdict_and, plainVerdict, Bool.not_and, Bool.not_not]

/-! ## Sets -/

theorem contains_narrow (kept : KeySet) (sets : List KeySet) (key : String) :
    (narrow kept sets).contains key =
      (kept.contains key && sets.all fun set => set.contains key) := by
  induction sets generalizing kept with
  | nil => simp [narrow]
  | cons set rest inductionHypothesis =>
      rw [narrow]
      split
      next isEmpty =>
        -- The walk ends early, and the key was not left in any case.
        rw [SortedMap.contains_of_isEmpty isEmpty, Bool.false_and]
      next =>
        rw [inductionHypothesis, KeySet.contains_inter, List.all_cons, Bool.and_assoc]

theorem contains_intersection (sets : List KeySet) (key : String) :
    (intersection sets).contains key = and.verdict (sets.map fun set => set.contains key) := by
  rw [verdict_and, List.isEmpty_map, List.all_map, intersection]
  have reordered := List.mergeSort_perm sets fun left right => decide (left.size ≤ right.size)
  cases sorted : sets.mergeSort fun left right => decide (left.size ≤ right.size) with
  | nil =>
      rw [sorted] at reordered
      rw [reordered.symm.eq_nil]
      rfl
  | cons smallest rest =>
      rw [sorted] at reordered
      have present : sets.isEmpty = false := by
        rw [List.isEmpty_eq_false_iff_exists_mem]
        exact ⟨smallest, reordered.mem_iff.1 (List.mem_cons_self ..)⟩
      rw [contains_narrow, ← List.all_cons (f := fun set => SortedMap.contains set key),
        reordered.all_eq, present]
      rfl

theorem contains_union (sets : List KeySet) (key : String) :
    (union sets).contains key = or.verdict (sets.map fun set => set.contains key) := by
  rw [verdict_or, List.any_map]
  cases sets with
  | nil => rfl
  | cons first rest =>
      have step : ∀ start : KeySet, (rest.foldl KeySet.union start).contains key =
          (start.contains key || rest.any fun set => set.contains key) := by
        induction rest with
        | nil => simp
        | cons set others inductionHypothesis =>
            intro start
            rw [List.foldl_cons, inductionHypothesis, KeySet.contains_union, List.any_cons,
              Bool.or_assoc]
      exact step first

/-! ## Occurrences -/

theorem find?_foldl_countKey (keys : List String) (counts : SortedMap String Nat) (key : String) :
    ((keys.foldl countKey counts).find? key).getD 0 =
      (counts.find? key).getD 0 + keys.count key := by
  induction keys generalizing counts with
  | nil => simp
  | cons first rest inductionHypothesis =>
      rw [List.foldl_cons, inductionHypothesis, countKey, SortedMap.find?_insert, List.count_cons]
      by_cases isFirst : key = first
      · simp [isFirst]
        omega
      · simp [isFirst, Ne.symm isFirst]

/-- A set holds a key once or not at all. -/
theorem count_keys (set : KeySet) (key : String) :
    set.keys.count key = if set.contains key then 1 else 0 := by
  have distinct : set.keys.Nodup := by
    refine set.keys_pairwise.imp ?_
    intro left right before same
    rw [same, Std.ReflOrd.compare_self] at before
    cases before
  rw [distinct.count]
  simp only [SortedMap.mem_keys_iff]

theorem find?_occurrences (sets : List KeySet) (key : String) :
    ((occurrences sets).find? key).getD 0 =
      (sets.map fun set => set.contains key).count true := by
  have step : ∀ counts : SortedMap String Nat,
      ((sets.foldl (fun counts set => set.keys.foldl countKey counts) counts).find? key).getD 0 =
        (counts.find? key).getD 0 + (sets.map fun set => set.contains key).count true := by
    induction sets with
    | nil => simp
    | cons set rest inductionHypothesis =>
        intro counts
        rw [List.foldl_cons, inductionHypothesis, find?_foldl_countKey, count_keys, List.map_cons,
          List.count_cons, Nat.add_assoc, Nat.add_comm (List.count _ _)]
        cases SortedMap.contains set key <;> rfl
  rw [occurrences, step, SortedMap.find?_empty, Option.getD_none, Nat.zero_add]

theorem contains_exactlyOne (sets : List KeySet) (key : String) :
    (exactlyOne sets).contains key = xor.verdict (sets.map fun set => set.contains key) := by
  rw [verdict_xor, ← find?_occurrences, exactlyOne]
  simp only [SortedMap.contains, SortedMap.find?_mapValues, SortedMap.find?_filter]
  cases (occurrences sets).find? key with
  | none => rfl
  | some count =>
      cases isSingle : count == 1 <;> simp [Option.filter, isSingle]

/-- Joining sets selects a key of the whole exactly when joining the verdicts on it does. -/
theorem contains_joinSets (connective : Connective) (sets : List KeySet) {everything : KeySet}
    {key : String}
    (isWhole : connective = nor ∨ connective = nand → everything.contains key = true) :
    (connective.joinSets sets everything).contains key =
      connective.verdict (sets.map fun set => set.contains key) := by
  cases connective with
  | and => exact contains_intersection sets key
  | or => exact contains_union sets key
  | xor => exact contains_exactlyOne sets key
  | nor =>
      rw [joinSets, KeySet.contains_diff, isWhole (.inl rfl), contains_union, verdict_nor,
        Bool.true_and]
  | nand =>
      rw [joinSets, KeySet.contains_diff, isWhole (.inr rfl), contains_intersection,
        verdict_nand, Bool.true_and]

/-! ## Verdicts that are not drawn -/

theorem seek_congr (wanted : Bool) {verdicts others : List Bool}
    (sameLength : others.length = verdicts.length)
    (sameDrawn : others.take (seek wanted verdicts).2 = verdicts.take (seek wanted verdicts).2) :
    seek wanted others = seek wanted verdicts := by
  induction verdicts generalizing others with
  | nil => rw [List.eq_nil_of_length_eq_zero sameLength]
  | cons verdict rest inductionHypothesis =>
      cases others with
      | nil => cases sameLength
      | cons other otherRest =>
          rw [seek] at sameDrawn
          split at sameDrawn
          next isWanted =>
            have sameFirst : other = verdict := by simpa using sameDrawn
            rw [seek, seek, sameFirst, if_pos isWanted, if_pos isWanted]
          next notWanted =>
            obtain ⟨sameFirst, sameRest⟩ := List.cons.inj sameDrawn
            rw [seek, seek, sameFirst, if_neg notWanted, if_neg notWanted,
              inductionHypothesis (Nat.succ.inj sameLength) sameRest]

theorem seekSingle_congr {verdicts others : List Bool}
    (sameLength : others.length = verdicts.length)
    (sameDrawn : others.take (seekSingle verdicts).2 = verdicts.take (seekSingle verdicts).2) :
    seekSingle others = seekSingle verdicts := by
  induction verdicts generalizing others with
  | nil => rw [List.eq_nil_of_length_eq_zero sameLength]
  | cons verdict rest inductionHypothesis =>
      cases others with
      | nil => cases sameLength
      | cons other otherRest =>
          rw [seekSingle] at sameDrawn
          split at sameDrawn
          next isTrue =>
            obtain ⟨sameFirst, sameRest⟩ := List.cons.inj sameDrawn
            rw [seekSingle, seekSingle, sameFirst, if_pos isTrue, if_pos isTrue,
              seek_congr true (Nat.succ.inj sameLength) sameRest]
          next isFalse =>
            obtain ⟨sameFirst, sameRest⟩ := List.cons.inj sameDrawn
            rw [seekSingle, seekSingle, sameFirst, if_neg isFalse, if_neg isFalse,
              inductionHypothesis (Nat.succ.inj sameLength) sameRest]

/-- A joint verdict depends on the drawn verdicts alone. -/
theorem judge_congr (connective : Connective) (count : Nat) {verdicts others : List Bool}
    (sameLength : others.length = verdicts.length)
    (sameDrawn : others.take (connective.judge count verdicts).2 =
      verdicts.take (connective.judge count verdicts).2) :
    connective.judge count others = connective.judge count verdicts := by
  unfold judge at sameDrawn ⊢
  cases connective with
  | and =>
      simp only at sameDrawn ⊢
      split at sameDrawn
      next isNone => rw [if_pos isNone, if_pos isNone]
      next isSome => rw [if_neg isSome, if_neg isSome, seek_congr false sameLength sameDrawn]
  | or => exact seek_congr true sameLength sameDrawn
  | xor => exact seekSingle_congr sameLength sameDrawn
  | nor =>
      simp only at sameDrawn ⊢
      rw [seek_congr true sameLength sameDrawn]
  | nand =>
      simp only at sameDrawn ⊢
      split at sameDrawn
      next isNone => rw [if_pos isNone, if_pos isNone]
      next isSome => rw [if_neg isSome, if_neg isSome, seek_congr false sameLength sameDrawn]

/-! ## Laws of joined sets -/

theorem verdict_perm (connective : Connective) {verdicts others : List Bool}
    (reordered : verdicts.Perm others) :
    connective.verdict others = connective.verdict verdicts := by
  have sameAnd : and.verdict others = and.verdict verdicts := by
    rw [verdict_and, verdict_and, reordered.all_eq, reordered.isEmpty_eq]
  have sameOr : or.verdict others = or.verdict verdicts := by
    rw [verdict_or, verdict_or, reordered.any_eq]
  cases connective with
  | and => exact sameAnd
  | or => exact sameOr
  | xor => rw [verdict_xor, verdict_xor, reordered.count_eq]
  | nor => rw [verdict_nor, verdict_nor, sameOr]
  | nand => rw [verdict_nand, verdict_nand, sameAnd]

/-- A key is held by the set at a position. -/
def HeldAt (sets : List KeySet) (key : String) (position : Nat) : Prop :=
  ∃ set, sets[position]? = some set ∧ set.contains key = true

theorem heldAt_cons_zero (set : KeySet) (rest : List KeySet) (key : String) :
    HeldAt (set :: rest) key 0 ↔ set.contains key = true := by
  simp [HeldAt]

theorem heldAt_cons_succ (set : KeySet) (rest : List KeySet) (key : String) (position : Nat) :
    HeldAt (set :: rest) key (position + 1) ↔ HeldAt rest key position := by
  simp [HeldAt]

theorem count_contains_eq_zero_iff (sets : List KeySet) (key : String) :
    (sets.map fun set => set.contains key).count true = 0 ↔
      ∀ position, ¬HeldAt sets key position := by
  rw [List.count_eq_zero, List.mem_map]
  constructor
  · rintro absent position ⟨set, atPosition, isHeld⟩
    exact absent ⟨set, List.mem_of_getElem? atPosition, isHeld⟩
  · rintro absent ⟨set, member, isHeld⟩
    obtain ⟨position, atPosition⟩ := List.getElem?_of_mem member
    exact absent position ⟨set, atPosition, isHeld⟩

/-- One occurrence is an occurrence at one position. -/
theorem count_contains_eq_one_iff (sets : List KeySet) (key : String) :
    (sets.map fun set => set.contains key).count true = 1 ↔
      ∃ position, HeldAt sets key position ∧
        ∀ other, HeldAt sets key other → other = position := by
  induction sets with
  | nil => simp [HeldAt]
  | cons set rest inductionHypothesis =>
      rw [List.map_cons, List.count_cons]
      cases isHeld : SortedMap.contains set key with
      | true =>
          rw [if_pos (beq_self_eq_true true), Nat.add_eq_right, count_contains_eq_zero_iff]
          constructor
          · intro absent
            refine ⟨0, (heldAt_cons_zero set rest key).2 isHeld, ?_⟩
            intro other otherHeld
            cases other with
            | zero => rfl
            | succ later => exact absurd ((heldAt_cons_succ ..).1 otherHeld) (absent later)
          · rintro ⟨position, _, alone⟩ later laterHeld
            have atFirst := alone 0 ((heldAt_cons_zero set rest key).2 isHeld)
            have atLater := alone (later + 1) ((heldAt_cons_succ ..).2 laterHeld)
            omega
      | false =>
          have notFirst : ¬HeldAt (set :: rest) key 0 := by
            rw [heldAt_cons_zero, isHeld]
            exact Bool.false_ne_true
          rw [if_neg (by decide), Nat.add_zero, inductionHypothesis]
          constructor
          · rintro ⟨position, positionHeld, alone⟩
            refine ⟨position + 1, (heldAt_cons_succ ..).2 positionHeld, ?_⟩
            intro other otherHeld
            cases other with
            | zero => exact absurd otherHeld notFirst
            | succ later => rw [alone later ((heldAt_cons_succ ..).1 otherHeld)]
          · rintro ⟨position, positionHeld, alone⟩
            cases position with
            | zero => exact absurd positionHeld notFirst
            | succ earlier =>
                refine ⟨earlier, (heldAt_cons_succ ..).1 positionHeld, ?_⟩
                intro other otherHeld
                exact Nat.succ.inj (alone (other + 1) ((heldAt_cons_succ ..).2 otherHeld))

/-- Two sets share out a whole: together they make it up, and no key is in both. -/
def ShareOut (whole left right : KeySet) : Prop :=
  ∀ key, whole.contains key = (left.contains key || right.contains key) ∧
    (left.contains key && right.contains key) = false

theorem shareOut_diff {whole part : KeySet}
    (inside : ∀ key, part.contains key = true → whole.contains key = true) :
    ShareOut whole part (whole.diff part) := by
  intro key
  rw [KeySet.contains_diff]
  have inWhole := inside key
  cases inPart : part.contains key with
  | true => simp [inWhole inPart]
  | false => simp

theorem joinSets_perm (connective : Connective) {sets others : List KeySet}
    (reordered : sets.Perm others) (everything : KeySet) :
    connective.joinSets others everything = connective.joinSets sets everything := by
  have sameIntersection : intersection others = intersection sets := by
    apply KeySet.ext
    intro key
    rw [contains_intersection, contains_intersection, verdict_perm and (reordered.map _)]
  have sameUnion : union others = union sets := by
    apply KeySet.ext
    intro key
    rw [contains_union, contains_union, verdict_perm or (reordered.map _)]
  cases connective with
  | and => exact sameIntersection
  | or => exact sameUnion
  | xor =>
      apply KeySet.ext
      intro key
      show (exactlyOne others).contains key = (exactlyOne sets).contains key
      rw [contains_exactlyOne, contains_exactlyOne, verdict_perm xor (reordered.map _)]
  | nor => rw [joinSets, joinSets, sameUnion]
  | nand => rw [joinSets, joinSets, sameIntersection]

theorem contains_intersection_iff (sets : List KeySet) (key : String) :
    (intersection sets).contains key = true ↔
      sets ≠ [] ∧ ∀ set ∈ sets, set.contains key = true := by
  rw [contains_intersection, verdict_and]
  simp

theorem contains_union_iff (sets : List KeySet) (key : String) :
    (union sets).contains key = true ↔ ∃ set ∈ sets, set.contains key = true := by
  rw [contains_union, verdict_or]
  simp

/-- Sets of keys are joined as the connectives say: a key is selected by conjunction when there
are sets and all hold it, by disjunction when one does, by exclusive-or when it is held at one
position, and by the negations when it is a key of the whole that their counterparts leave out.
The order of the sets makes no difference, a negation and its counterpart share out a whole that
the sets lie in, and on a key of the whole joining comes to the verdict drawn from the sets in
their order. What is not drawn of a list of verdicts has no influence on the verdict, which is
that of the whole list. -/
theorem joinSets_exact (sets : List KeySet) (everything : KeySet) :
    (∀ key,
      ((and.joinSets sets everything).contains key = true ↔
          sets ≠ [] ∧ ∀ set ∈ sets, set.contains key = true) ∧
        ((or.joinSets sets everything).contains key = true ↔
          ∃ set ∈ sets, set.contains key = true) ∧
        ((xor.joinSets sets everything).contains key = true ↔
          ∃ position, HeldAt sets key position ∧
            ∀ other, HeldAt sets key other → other = position) ∧
        ((nor.joinSets sets everything).contains key = true ↔
          everything.contains key = true ∧ ∀ set ∈ sets, set.contains key = false) ∧
        ((nand.joinSets sets everything).contains key = true ↔
          everything.contains key = true ∧
            (sets = [] ∨ ∃ set ∈ sets, set.contains key = false))) ∧
      (∀ (connective : Connective) (others : List KeySet), sets.Perm others →
        connective.joinSets others everything = connective.joinSets sets everything) ∧
      ((∀ set ∈ sets, ∀ key, set.contains key = true → everything.contains key = true) →
        ShareOut everything (or.joinSets sets everything) (nor.joinSets sets everything) ∧
          ShareOut everything (and.joinSets sets everything) (nand.joinSets sets everything)) ∧
      (∀ (connective : Connective) (key : String), everything.contains key = true →
        (connective.joinSets sets everything).contains key =
          (connective.judge sets.length (sets.map fun set => set.contains key)).1) ∧
      ∀ (connective : Connective) (verdicts others : List Bool),
        (connective.judge verdicts.length verdicts).1 = connective.plainVerdict verdicts ∧
          (others.length = verdicts.length →
            others.take (connective.judge verdicts.length verdicts).2 =
                verdicts.take (connective.judge verdicts.length verdicts).2 →
              connective.judge verdicts.length others =
                connective.judge verdicts.length verdicts) := by
  refine ⟨?_, ?_, ?_, ?_, ?_⟩
  · intro key
    refine ⟨contains_intersection_iff sets key, contains_union_iff sets key, ?_, ?_, ?_⟩
    · rw [← count_contains_eq_one_iff]
      show (exactlyOne sets).contains key = true ↔ _
      rw [contains_exactlyOne, verdict_xor, beq_iff_eq]
    · rw [joinSets, KeySet.contains_diff, Bool.and_eq_true, Bool.not_eq_true', ← Bool.not_eq_true,
        contains_union_iff]
      simp
    · rw [joinSets, KeySet.contains_diff, Bool.and_eq_true, Bool.not_eq_true', ← Bool.not_eq_true,
        contains_intersection_iff]
      by_cases none : sets = [] <;> simp [none]
  · intro connective others reordered
    exact connective.joinSets_perm reordered everything
  · intro inside
    refine ⟨shareOut_diff ?_, shareOut_diff ?_⟩
    · intro key isIn
      obtain ⟨set, member, isHeld⟩ := (contains_union_iff sets key).1 isIn
      exact inside set member key isHeld
    · intro key isIn
      obtain ⟨present, areHeld⟩ := (contains_intersection_iff sets key).1 isIn
      obtain ⟨set, member⟩ := List.exists_mem_of_ne_nil sets present
      exact inside set member key (areHeld set member)
  · intro connective key isWhole
    rw [contains_joinSets connective sets fun _ => isWhole, verdict, List.length_map]
  · intro connective verdicts others
    exact ⟨connective.verdict_eq_plainVerdict verdicts, judge_congr connective _⟩

/-- Sets with a repetition, an empty one and two of equal size, inside a whole of four keys. -/
private def overlapping : List KeySet :=
  [["a", "b"], [], ["b", "c"], ["a", "b"]].map KeySet.ofKeys

private def fourKeys : KeySet := KeySet.ofKeys ["a", "b", "c", "d"]

theorem joinSets_exact_overlapping :
    overlapping.Perm overlapping.reverse ∧
      and.joinSets overlapping.reverse fourKeys = and.joinSets overlapping fourKeys ∧
      (∀ set ∈ overlapping, ∀ key, set.contains key = true → fourKeys.contains key = true) ∧
      ShareOut fourKeys (or.joinSets overlapping fourKeys) (nor.joinSets overlapping fourKeys) ∧
      (xor.joinSets overlapping fourKeys).contains "c" = true ∧
      (or.judge 4 [false, true, true, false]).2 = 2 ∧
      or.judge 4 [false, true, false, false] = or.judge 4 [false, true, true, false] := by
  have inside : ∀ set ∈ overlapping, ∀ key, set.contains key = true →
      fourKeys.contains key = true := by
    intro set member key isHeld
    have listed := (SortedMap.mem_keys_iff ..).2 isHeld
    have eachInside : ∀ set ∈ overlapping, ∀ key ∈ set.keys, fourKeys.contains key = true := by
      decide
    exact eachInside set member key listed
  obtain ⟨_, reorders, sharesOut, onWhole, undrawn⟩ := joinSets_exact overlapping fourKeys
  refine ⟨(List.reverse_perm _).symm, reorders and _ (List.reverse_perm _).symm, inside,
    (sharesOut inside).1, ?_, rfl, ?_⟩
  · rw [onWhole xor "c" (by decide)]
    decide
  · exact (undrawn or [false, true, true, false] [false, true, false, false]).2 rfl rfl

end Connective

end DocStore
