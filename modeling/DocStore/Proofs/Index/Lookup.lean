import DocStore.Proofs.Comparison
import DocStore.Proofs.Index.Upkeep
import DocStore.Proofs.Number.Zero

/-!
Contract: a look-up answers what the comparison says.

The value of a field matters to a comparison only through its index key, so a
comparison can be read as a class of index keys. Each look-up finds exactly the
document keys under the index keys of that class, whichever window of the key
order it walks. An index that answers for a class of documents therefore answers
a comparison with the keys of the documents of the class that meet it.

Owns: `Comparison.holdsOnKey`, the windows of the divisions, and the law of look-ups.
-/

namespace DocStore

/-! ## Comparisons on index keys -/

namespace Number

theorem rank_le_gridSize (number : Number) (isNumber : number.isNaN = false) :
    number.rank ≤ gridSize := by
  cases number with
  | nan => cases isNumber
  | infinite negative => cases negative <;> simp only [rank] <;> omega
  | finite negative position =>
      have below := position.isLt
      cases negative <;> simp only [rank] <;> omega

theorem rank_of_isNaN {number : Number} (isNaN : number.isNaN = true) :
    number.rank = gridSize + 1 := by
  cases number with
  | nan => rfl
  | infinite negative => cases isNaN
  | finite negative position => cases isNaN

end Number

namespace Comparison

theorem holdsOnNumbers_withoutNegativeZero (comparison : Comparison) (literal found : Number) :
    comparison.holdsOnNumbers literal found.withoutNegativeZero =
      comparison.holdsOnNumbers literal found := by
  cases comparison <;>
    simp only [holdsOnNumbers, Number.equals, Number.isLess, Number.isAtMost,
      Number.rank_withoutNegativeZero, Number.isNaN_withoutNegativeZero]

/-- Whether the values with an index key stand in a comparison to a literal. -/
def holdsOnKey (comparison : Comparison) (literal : Value) : IndexKey → Bool
  | .null => comparison.holds literal .null
  | .bool value => comparison.holds literal (.bool value)
  | .number key => comparison.holds literal (.number key.number)
  | .string text => comparison.holds literal (.string text)
  | .object canonicalKey =>
      match literal, comparison with
      | .object fields, equals => (Value.object fields).canonicalKey == canonicalKey
      | .object fields, notEquals => (Value.object fields).canonicalKey != canonicalKey
      | _, _ => false

theorem holds_number_withoutNegativeZero (comparison : Comparison) (literal : Value)
    (found : Number) :
    comparison.holds literal (.number found.withoutNegativeZero) =
      comparison.holds literal (.number found) := by
  have onScalars : ∀ (other : Comparison) (literal : Value),
      other.holdsOnScalars literal (.number found.withoutNegativeZero) =
        other.holdsOnScalars literal (.number found) := by
    intro other literal
    cases literal <;> simp only [holdsOnScalars, holdsOnNumbers_withoutNegativeZero]
  cases literal <;> simp only [holds, onScalars, Value.isScalar]

/-- A comparison looks at a value through its index key; arrays have none and never match. -/
theorem holds_eq_holdsOnKey (comparison : Comparison) (literal value : Value) :
    comparison.holds literal value =
      (IndexKey.ofValue? value).any (comparison.holdsOnKey literal) := by
  cases value with
  | null => rfl
  | bool value => rfl
  | number found => exact (comparison.holds_number_withoutNegativeZero literal found).symm
  | string text => rfl
  | array items => cases literal <;> simp [holds, Value.isScalar, IndexKey.ofValue?]
  | object fields =>
      cases literal <;> cases comparison <;>
        simp [holds, Value.isScalar, IndexKey.ofValue?, holdsOnKey, bne]

end Comparison

/-! ## Windows of the key order -/

namespace IndexKey

theorem division_le_of_isLE {left right : IndexKey} (ordered : (compare left right).isLE = true) :
    left.division ≤ right.division := by
  change ((compare left.division right.division).then
    ((compare left.place right.place).then (compare left.label right.label))).isLE = true at ordered
  rw [Ordering.isLE_then_iff_and] at ordered
  exact Nat.isLE_compare.1 ordered.1

theorem compare_number (left right : NumberKey) :
    compare (number left) (number right) = compare left.number.rank right.number.rank := by
  have unfolded : compare (number left) (number right) =
      (compare 2 2).then
        ((compare left.number.rank right.number.rank).then (compare "" "")) := rfl
  rw [unfolded, Std.ReflOrd.compare_self, Std.ReflOrd.compare_self, Ordering.then_eq]
  rfl

theorem compare_string (left right : String) :
    compare (string left) (string right) = compare left right := by
  have unfolded : compare (string left) (string right) =
      (compare 3 3).then ((compare (0 : Int) 0).then (compare left right)) := rfl
  rw [unfolded, Std.ReflOrd.compare_self, Std.ReflOrd.compare_self]
  rfl

theorem compare_object (left right : String) :
    compare (object left) (object right) = compare left right := by
  have unfolded : compare (object left) (object right) =
      (compare 4 4).then ((compare (0 : Int) 0).then (compare left right)) := rfl
  rw [unfolded, Std.ReflOrd.compare_self, Std.ReflOrd.compare_self]
  rfl

theorem isNumber_iff (key : IndexKey) : key.isNumber = true ↔ key.division = 2 := by
  cases key <;> simp [isNumber, division]

theorem isString_iff (key : IndexKey) : key.isString = true ↔ key.division = 3 := by
  cases key <;> simp [isString, division]

end IndexKey

namespace Index

/-- The least division in which a window with this lower end can have keys. -/
def Bound.division : Bound → Nat
  | .included key | .excluded key => key.division
  | .unbounded => 0

theorem Window.division_le_of_contains {window : Window} {key : IndexKey}
    (inside : window.contains key = true) : window.lower.division ≤ key.division := by
  unfold Window.contains Window.isAbove at inside
  rw [Bool.and_eq_true] at inside
  cases lower : window.lower with
  | included bound =>
      rw [lower] at inside
      exact IndexKey.division_le_of_isLE inside.1
  | excluded bound =>
      rw [lower] at inside
      have less : compare bound key = .lt := by simpa using inside.1
      exact IndexKey.division_le_of_isLE (by rw [less]; rfl)
  | unbounded => exact Nat.zero_le _

/-- On a list along which a property is never regained, the leading members with the property
are all members with it. -/
theorem takeWhile_eq_filter {Item : Type u} {keep : Item → Bool} {items : List Item}
    (lost : items.Pairwise fun left right => keep right = true → keep left = true) :
    items.takeWhile keep = items.filter keep := by
  induction items with
  | nil => rfl
  | cons first rest inductionHypothesis =>
      obtain ⟨beforeRest, lostInRest⟩ := List.pairwise_cons.1 lost
      by_cases keepsFirst : keep first = true
      · rw [List.takeWhile_cons_of_pos keepsFirst, List.filter_cons_of_pos keepsFirst,
          inductionHypothesis lostInRest]
      · rw [List.takeWhile_cons_of_neg keepsFirst, List.filter_cons_of_neg keepsFirst]
        symm
        rw [List.filter_eq_nil_iff]
        intro other member keepsOther
        exact keepsFirst (beforeRest other member keepsOther)

/-- The keys of a division are the first in a window that begins in that division. -/
theorem takeWhile_entriesIn (index : Index) {window : Window} {division : Nat}
    {test : IndexKey → Bool} (isDivision : ∀ key, test key = true ↔ key.division = division)
    (begins : window.lower.division = division) :
    ((index.entriesIn window).takeWhile fun entry => test entry.1) =
      (index.entriesIn window).filter fun entry => test entry.1 := by
  apply takeWhile_eq_filter
  unfold entriesIn
  rw [List.pairwise_filter]
  refine index.entries.sorted.imp ?_
  intro left right before leftInside _ rightIn
  rw [isDivision] at rightIn ⊢
  have fromBelow := Window.division_le_of_contains leftInside
  have fromAbove := IndexKey.division_le_of_isLE (by rw [before]; rfl)
  omega

/-! ## Look-ups -/

/-- A set holds the document keys under the index keys of a class. -/
def Finds (index : Index) (keys : KeySet) (wanted : IndexKey → Bool) : Prop :=
  ∀ key, keys.contains key = true ↔
    ∃ indexKey, wanted indexKey = true ∧ (index.exactly indexKey).contains key = true

theorem contains_collect (entries : List (IndexKey × KeySet)) (key : String) :
    (collect entries).contains key = entries.any fun entry => entry.2.contains key := by
  have step : ∀ keys : KeySet,
      (entries.foldl (fun keys entry => keys.union entry.2) keys).contains key =
        (keys.contains key || entries.any fun entry => entry.2.contains key) := by
    induction entries with
    | nil => simp
    | cons entry rest inductionHypothesis =>
        intro keys
        rw [List.foldl_cons, inductionHypothesis, KeySet.contains_union, List.any_cons,
          Bool.or_assoc]
  rw [collect, step, KeySet.contains_empty, Bool.false_or]

theorem finds_collect {index : Index} {keep : IndexKey × KeySet → Bool} {wanted : IndexKey → Bool}
    (same : ∀ indexKey keys, keep (indexKey, keys) = wanted indexKey) :
    index.Finds (collect (index.entries.toList.filter keep)) wanted := by
  intro key
  rw [contains_collect, List.any_eq_true]
  constructor
  · rintro ⟨⟨indexKey, keys⟩, member, isIn⟩
    rw [List.mem_filter, SortedMap.mem_toList_iff, same] at member
    refine ⟨indexKey, member.2, ?_⟩
    rw [exactly, member.1]
    exact isIn
  · rintro ⟨indexKey, isWanted, isIn⟩
    unfold exactly at isIn
    cases found : index.entries.find? indexKey with
    | none => simp [found] at isIn
    | some keys =>
        rw [found] at isIn
        refine ⟨(indexKey, keys), ?_, isIn⟩
        rw [List.mem_filter, SortedMap.mem_toList_iff, same]
        exact ⟨found, isWanted⟩

theorem finds_exactly (index : Index) (indexKey : IndexKey) :
    index.Finds (index.exactly indexKey) fun other => other = indexKey := by
  intro key
  simp

theorem finds_empty (index : Index) : index.Finds SortedMap.empty fun _ => false := by
  intro key
  simp

theorem Finds.congr {index : Index} {keys : KeySet} {wanted other : IndexKey → Bool}
    (finds : index.Finds keys wanted) (same : ∀ indexKey, wanted indexKey = other indexKey) :
    index.Finds keys other := by
  intro key
  rw [finds key]
  exact exists_congr fun indexKey => by rw [same]

theorem Finds.union {index : Index} {left right : KeySet} {leftWanted rightWanted : IndexKey → Bool}
    (leftFinds : index.Finds left leftWanted) (rightFinds : index.Finds right rightWanted) :
    index.Finds (left.union right) fun indexKey =>
      leftWanted indexKey || rightWanted indexKey := by
  intro key
  rw [KeySet.contains_union, Bool.or_eq_true, leftFinds key, rightFinds key, ← exists_or]
  exact exists_congr fun indexKey => by rw [Bool.or_eq_true, or_and_right]

/-! ## Numbers -/

theorem isLE_compare_number (left right : NumberKey) :
    (compare (IndexKey.number left) (.number right)).isLE =
      decide (left.number.rank ≤ right.number.rank) := by
  rw [Bool.eq_iff_iff, decide_eq_true_iff, IndexKey.compare_number, Int.isLE_compare]

theorem compare_number_eq_lt (left right : NumberKey) :
    (compare (IndexKey.number left) (.number right) == .lt) =
      decide (left.number.rank < right.number.rank) := by
  rw [Bool.eq_iff_iff, decide_eq_true_iff, IndexKey.compare_number, beq_iff_eq,
    Int.compare_eq_lt]

theorem isAbove_leastNumber (key : NumberKey) :
    Window.isAbove (.included leastNumber) (.number key) = true := by
  have least : -(Number.gridSize : Int) ≤ key.number.rank := by
    cases key.number with
    | nan =>
        simp only [Number.rank]
        omega
    | infinite negative => cases negative <;> simp only [Number.rank] <;> omega
    | finite negative position =>
        have below := position.isLt
        cases negative <;> simp only [Number.rank] <;> omega
  rw [Window.isAbove, leastNumber, isLE_compare_number, decide_eq_true_iff]
  exact least

theorem lower_of_numberWindow {comparison : Comparison} {literal : Number} {window : Window}
    (found : numberWindow? comparison literal = some window) : window.lower.division = 2 := by
  unfold numberWindow? at found
  cases isNaN : literal.isNaN <;> cases comparison <;> simp [isNaN] at found <;>
    rw [← found] <;> rfl

/-- The window of a comparison leaves out no number that stands in it, and for equality it holds
no other number. -/
theorem contains_numberWindow {comparison : Comparison} {literal : Number} {window : Window}
    (found : numberWindow? comparison literal = some window) (key : NumberKey) :
    (window.contains (.number key) &&
        (comparison = .equals || comparison.holdsOnNumbers literal key.number)) =
      comparison.holdsOnNumbers literal key.number := by
  have pivotRank : (NumberKey.ofNumber literal).number.rank = literal.rank :=
    literal.rank_withoutNegativeZero
  unfold numberWindow? at found
  cases isNaN : literal.isNaN with
  | true =>
      have everyNumber : comparison = .notEquals ∧
          window = ⟨.included leastNumber, .unbounded⟩ := by
        simp only [isNaN, if_true] at found
        split at found
        next isInequality => exact ⟨isInequality, (Option.some.inj found).symm⟩
        next => cases found
      rw [everyNumber.2, Window.contains, isAbove_leastNumber, Window.isBelow, Bool.true_and,
        Bool.true_and, everyNumber.1]
      rfl
  | false =>
      rw [isNaN, if_neg Bool.false_ne_true] at found
      cases comparison with
      | equals =>
          -- NaN ranks above the literal, so it is not under the literal's own key.
          have literalRank : literal.rank ≤ Number.gridSize := literal.rank_le_gridSize isNaN
          rw [← Option.some.inj found, Window.contains, Window.isAbove, Window.isBelow,
            isLE_compare_number, isLE_compare_number, pivotRank, decide_eq_true rfl, Bool.true_or,
            Bool.and_true, Comparison.holdsOnNumbers, Number.equals, isNaN]
          cases keyNaN : key.number.isNaN with
          | true =>
              have keyRank := Number.rank_of_isNaN keyNaN
              simp
              omega
          | false =>
              rw [Bool.eq_iff_iff]
              simp
              omega
      | notEquals =>
          rw [← Option.some.inj found, Window.contains, isAbove_leastNumber]
          rfl
      | greater =>
          rw [← Option.some.inj found, Window.contains, Window.isAbove, Window.isBelow,
            compare_number_eq_lt, pivotRank, Comparison.holdsOnNumbers, Number.isLess]
          cases decide (literal.rank < key.number.rank) <;> simp
      | greaterOrEqual =>
          rw [← Option.some.inj found, Window.contains, Window.isAbove, Window.isBelow,
            isLE_compare_number, pivotRank, Comparison.holdsOnNumbers, Number.isAtMost]
          cases decide (literal.rank ≤ key.number.rank) <;> simp
      | smaller =>
          rw [← Option.some.inj found, Window.contains, isAbove_leastNumber, Window.isBelow,
            compare_number_eq_lt, pivotRank, Comparison.holdsOnNumbers, Number.isLess]
          cases decide (key.number.rank < literal.rank) <;> simp
      | smallerOrEqual =>
          rw [← Option.some.inj found, Window.contains, isAbove_leastNumber, Window.isBelow,
            isLE_compare_number, pivotRank, Comparison.holdsOnNumbers, Number.isAtMost]
          cases decide (key.number.rank ≤ literal.rank) <;> simp
      | isIn | isNotIn | contains => cases found

theorem holdsOnNumbers_of_no_window {comparison : Comparison} {literal : Number}
    (found : numberWindow? comparison literal = none) (number : Number) :
    comparison.holdsOnNumbers literal number = false := by
  unfold numberWindow? at found
  cases isNaN : literal.isNaN with
  | true =>
      cases comparison <;>
        simp_all [Comparison.holdsOnNumbers, Number.equals, Number.isLess, Number.isAtMost]
  | false =>
      rw [isNaN, if_neg Bool.false_ne_true] at found
      cases comparison <;> first | rfl | cases found

theorem finds_lookupNumber (index : Index) (comparison : Comparison) (literal : Number) :
    index.Finds (index.lookupNumber comparison literal)
      (comparison.holdsOnKey (.number literal)) := by
  unfold lookupNumber
  cases found : numberWindow? comparison literal with
  | none =>
      refine index.finds_empty.congr ?_
      intro indexKey
      cases indexKey with
      | number key => exact (holdsOnNumbers_of_no_window found key.number).symm
      | _ => rfl
  | some window =>
      simp only
      rw [index.takeWhile_entriesIn IndexKey.isNumber_iff (lower_of_numberWindow found),
        entriesIn, List.filter_filter, List.filter_filter]
      apply finds_collect
      intro indexKey keys
      cases indexKey with
      | number key =>
          have inWindow := contains_numberWindow found key
          rw [Bool.and_comm] at inWindow
          simp only [IndexKey.isNumber, Bool.and_true]
          exact inWindow
      | _ => rfl

/-! ## Strings and objects -/

theorem isLE_compare_empty (text : String) : (compare "" text).isLE = true := by
  rw [show compare "" text = compareOfLessAndEq "" text from rfl, compareOfLessAndEq]
  by_cases empty : text = ""
  · rw [empty, if_neg (String.lt_irrefl ""), if_pos rfl]
    rfl
  · have less : "" < text := by
      rw [String.lt_iff]
      cases characters : text.toList with
      | nil => exact absurd (String.toList_eq_nil_iff.1 characters) empty
      | cons first rest => exact List.nil_lt_cons first rest
    rw [if_pos less]
    rfl

theorem isAbove_empty_string (text : String) :
    Window.isAbove (.included (.string "")) (.string text) = true := by
  rw [Window.isAbove, IndexKey.compare_string]
  exact isLE_compare_empty text

theorem isAbove_empty_object (text : String) :
    Window.isAbove (.included (.object "")) (.object text) = true := by
  rw [Window.isAbove, IndexKey.compare_object]
  exact isLE_compare_empty text

theorem finds_lookupString (index : Index) (comparison : Comparison) (literal : String) :
    index.Finds (index.lookupString comparison literal)
      (comparison.holdsOnKey (.string literal)) := by
  unfold lookupString
  simp only
  rw [index.takeWhile_entriesIn IndexKey.isString_iff rfl, entriesIn, List.filter_filter,
    List.filter_filter]
  apply finds_collect
  intro indexKey keys
  cases indexKey with
  | string text =>
      simp only [IndexKey.isString, Window.contains, isAbove_empty_string, Window.isBelow,
        Bool.and_true]
      rfl
  | _ => rfl

theorem finds_lookupObject (index : Index) (comparison : Comparison)
    (fields : List (String × Value)) :
    index.Finds (index.lookupObject comparison (Value.object fields).canonicalKey)
      (comparison.holdsOnKey (.object fields)) := by
  cases comparison with
  | equals =>
      refine (index.finds_exactly _).congr ?_
      intro indexKey
      cases indexKey with
      | object text =>
          rw [Bool.eq_iff_iff, decide_eq_true_iff, IndexKey.object.injEq, Comparison.holdsOnKey,
            beq_iff_eq, eq_comm]
      | _ => simp [Comparison.holdsOnKey, Comparison.holds, Value.isScalar]
  | notEquals =>
      simp only [lookupObject, entriesIn, List.filter_filter]
      apply finds_collect
      intro indexKey keys
      cases indexKey with
      | object text =>
          simp only [Window.contains, isAbove_empty_object, Window.isBelow, Bool.and_true,
            Comparison.holdsOnKey]
          exact bne_comm
      | _ => simp [Comparison.holdsOnKey, Comparison.holds, Value.isScalar]
  | _ =>
      refine index.finds_empty.congr ?_
      intro indexKey
      cases indexKey <;> simp [Comparison.holdsOnKey, Comparison.holds, Value.isScalar]

/-! ## Every literal -/

theorem finds_lookupSingle (index : Index) (comparison : Comparison) {literal : Value}
    (single : ∀ members, literal ≠ .array members) :
    index.Finds (index.lookupSingle comparison literal) (comparison.holdsOnKey literal) := by
  cases literal with
  | null =>
      simp only [lookupSingle]
      split
      next isEquality =>
        refine (index.finds_exactly _).congr ?_
        intro indexKey
        cases indexKey <;> simp [isEquality, Comparison.holdsOnKey, Comparison.holds,
          Comparison.holdsOnScalars, Value.isScalar]
      next notEquality =>
        refine index.finds_empty.congr ?_
        intro indexKey
        cases indexKey <;> simp [notEquality, Comparison.holdsOnKey, Comparison.holds,
          Comparison.holdsOnScalars, Value.isScalar]
  | bool value =>
      cases comparison with
      | equals =>
          refine (index.finds_exactly _).congr ?_
          intro indexKey
          cases indexKey with
          | bool found => cases value <;> cases found <;> rfl
          | _ => simp [Comparison.holdsOnKey, Comparison.holds, Comparison.holdsOnScalars,
              Value.isScalar]
      | notEquals =>
          refine (index.finds_exactly _).congr ?_
          intro indexKey
          cases indexKey with
          | bool found => cases value <;> cases found <;> rfl
          | _ => simp [Comparison.holdsOnKey, Comparison.holds, Comparison.holdsOnScalars,
              Value.isScalar]
      | _ =>
          refine index.finds_empty.congr ?_
          intro indexKey
          cases indexKey <;> simp [Comparison.holdsOnKey, Comparison.holds,
            Comparison.holdsOnScalars, Value.isScalar]
  | number value => exact index.finds_lookupNumber comparison value
  | string text => exact index.finds_lookupString comparison text
  | array members => exact absurd rfl (single members)
  | object fields => exact index.finds_lookupObject comparison fields

/-- A member of an array literal is looked up by equality. -/
theorem holdsOnKey_array (comparison : Comparison) (members : List Value) (indexKey : IndexKey) :
    comparison.holdsOnKey (.array members) indexKey =
      (comparison == .isIn && (members.filter Value.isScalar).any fun member =>
        Comparison.equals.holdsOnKey member indexKey) := by
  cases indexKey with
  | object text =>
      have none : ((members.filter Value.isScalar).any fun member =>
          Comparison.equals.holdsOnKey member (.object text)) = false := by
        rw [List.any_filter, List.any_eq_false]
        intro member _
        cases member <;> simp [Comparison.holdsOnKey, Value.isScalar]
      rw [none, Bool.and_false]
      rfl
  | _ => exact Comparison.holds_array comparison members _

theorem finds_foldl_union (index : Index) (comparison : Comparison) (members : List Value)
    (single : ∀ member ∈ members, ∀ items, member ≠ .array items) {keys : KeySet}
    {wanted : IndexKey → Bool} (finds : index.Finds keys wanted) :
    index.Finds
      (members.foldl (fun keys member => keys.union (index.lookupSingle comparison member)) keys)
      fun indexKey => wanted indexKey ||
        members.any fun member => comparison.holdsOnKey member indexKey := by
  induction members generalizing keys wanted with
  | nil => exact finds.congr fun indexKey => by simp
  | cons member rest inductionHypothesis =>
      have first := index.finds_lookupSingle comparison (single member (List.mem_cons_self ..))
      have others := inductionHypothesis
        (fun other isRest => single other (List.mem_cons_of_mem _ isRest)) (finds.union first)
      exact others.congr fun indexKey => by rw [List.any_cons, Bool.or_assoc]

theorem finds_lookup (index : Index) (comparison : Comparison) (literal : Value) :
    index.Finds (index.lookup comparison literal) (comparison.holdsOnKey literal) := by
  cases literal with
  | array members =>
      have scalars : ∀ member ∈ members.filter Value.isScalar, ∀ items, member ≠ .array items := by
        intro member isMember items isArray
        rw [isArray] at isMember
        cases (List.mem_filter.1 isMember).2
      simp only [lookup]
      split
      next isMembership =>
        refine (index.finds_foldl_union .equals _ scalars index.finds_empty).congr ?_
        intro indexKey
        rw [holdsOnKey_array, isMembership]
        rfl
      next notMembership =>
        refine index.finds_empty.congr ?_
        intro indexKey
        rw [holdsOnKey_array, beq_false_of_ne notMembership, Bool.false_and]
  | _ => exact index.finds_lookupSingle comparison (by simp)

/-- A look-up answers the keys of the documents of the class that meet the comparison. -/
theorem AnswersFor.contains_lookup {index : Index} {present : Document → Prop}
    (answers : index.AnswersFor present) (comparison : Comparison) (literal : Value)
    (key : String) :
    (index.lookup comparison literal).contains key = true ↔
      ∃ document, present document ∧ document.key? = some key ∧
        comparison.test document index.field literal = true := by
  have meets : ∀ document : Document, comparison.test document index.field literal = true ↔
      ∃ value, document.get? index.field = some value ∧
        ∃ indexKey, IndexKey.ofValue? value = some indexKey ∧
          comparison.holdsOnKey literal indexKey = true := by
    intro document
    unfold Comparison.test
    cases document.get? index.field with
    | none => simp
    | some value => simp [Comparison.holds_eq_holdsOnKey, Option.any_eq_true]
  rw [index.finds_lookup comparison literal key]
  constructor
  · rintro ⟨indexKey, holds, isIn⟩
    obtain ⟨document, isPresent, isEntry⟩ := (answers.listed indexKey key).1 isIn
    obtain ⟨isKey, value, atField, keyed⟩ := entry_eq_some_iff.1 isEntry
    exact ⟨document, isPresent, isKey, (meets document).2 ⟨value, atField, indexKey, keyed, holds⟩⟩
  · rintro ⟨document, isPresent, isKey, isMet⟩
    obtain ⟨value, atField, indexKey, keyed, holds⟩ := (meets document).1 isMet
    refine ⟨indexKey, holds, (answers.listed indexKey key).2 ⟨document, isPresent, ?_⟩⟩
    exact entry_eq_some_iff.2 ⟨isKey, value, atField, keyed⟩

end Index

end DocStore
