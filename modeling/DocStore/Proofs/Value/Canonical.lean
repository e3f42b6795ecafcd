import DocStore.Index.Key
import DocStore.Proofs.Json.RoundTrip
import DocStore.Proofs.Number.Plain
import DocStore.Proofs.Number.Zero

/-!
Contract: the canonical key of a value tells the value, but for the sign of zero.

The first character of a canonical text tells the kind of its value. Words and
numbers go on to the first character that cannot extend them, strings to their
closing mark, and containers to their closing bracket, so a text that is
followed by anything else can be put together in one way only. By induction the
text tells every value inside as well.

Owns: `Value.withoutNegativeZero`, `Value.IsIdentical` and the unique readability of
canonical texts.
-/

namespace DocStore

/-- The place of a number in numeric order tells it, but for the sign of zero. -/
theorem Number.withoutNegativeZero_eq_iff (left right : Number) :
    left.withoutNegativeZero = right.withoutNegativeZero ↔ left.rank = right.rank := by
  constructor
  · intro same
    rw [← rank_withoutNegativeZero left, same, rank_withoutNegativeZero]
  · intro sameRank
    have sameKey : NumberKey.ofNumber left = NumberKey.ofNumber right := by
      apply NumberKey.eq_of_rank_eq
      show left.withoutNegativeZero.rank = right.withoutNegativeZero.rank
      rw [rank_withoutNegativeZero, rank_withoutNegativeZero, sameRank]
    exact congrArg NumberKey.number sameKey

/-- Numbers that are equal are the same number but for the sign of zero. -/
theorem Number.withoutNegativeZero_of_equals {left right : Number}
    (equal : left.equals right = true) :
    left.withoutNegativeZero = right.withoutNegativeZero := by
  rw [equals, Bool.and_eq_true, beq_iff_eq] at equal
  exact (withoutNegativeZero_eq_iff left right).2 equal.2

namespace Value

open Number (isBare)

mutual

/-- A value with zero for every negative zero in it. -/
def withoutNegativeZero : Value → Value
  | number value => number value.withoutNegativeZero
  | array items => array (itemsWithoutNegativeZero items)
  | object fields => object (fieldsWithoutNegativeZero fields)
  | other => other

def itemsWithoutNegativeZero : List Value → List Value
  | [] => []
  | item :: rest => item.withoutNegativeZero :: itemsWithoutNegativeZero rest

def fieldsWithoutNegativeZero : List (String × Value) → List (String × Value)
  | [] => []
  | (key, item) :: rest => (key, item.withoutNegativeZero) :: fieldsWithoutNegativeZero rest

end

/-! ## First characters -/

/-- The kind of the values whose canonical text begins with a character. -/
def leadKind? (character : Char) : Option Kind :=
  if Number.beginsNumber character then some .number
  else if character = '"' then some .string
  else if character = '[' then some .array
  else if character = '\x7b' then some .object
  else if character = 'n' then some .null
  else if character = 't' ∨ character = 'f' then some .bool
  else none

theorem leadKind?_canonicalChars (value : Value) (rest : List Char) :
    (value.canonicalChars ++ rest).head?.bind leadKind? = some value.kind := by
  cases value with
  | null => rfl
  | bool value => cases value <;> rfl
  | number value =>
      obtain ⟨first, isHead, begins⟩ := value.head?_plainChars
      rw [canonicalChars, List.head?_append, isHead, Option.some_or, Option.bind_some, leadKind?,
        if_pos begins]
      rfl
  | string text => rfl
  | array items => cases items <;> rfl
  | object fields => cases fields <;> rfl

theorem kind_eq_of_append_eq {left right : Value} {leftRest rightRest : List Char}
    (same : left.canonicalChars ++ leftRest = right.canonicalChars ++ rightRest) :
    left.kind = right.kind := by
  apply Option.some.inj
  rw [← leadKind?_canonicalChars left leftRest, same, leadKind?_canonicalChars]

/-- No canonical text begins with a closing character. -/
theorem canonicalChars_append_ne {closing : Char} (value : Value) (rest others : List Char)
    (closes : leadKind? closing = none) : value.canonicalChars ++ rest ≠ closing :: others := by
  intro same
  have lead := leadKind?_canonicalChars value rest
  rw [same, List.head?_cons, Option.bind_some, closes] at lead
  cases lead

/-! ## Where texts end -/

theorem stops_canonicalItems (items : List Value) (rest : List Char) :
    Text.Stops isBare (canonicalItems items ++ rest) := by
  intro first isHead
  cases items <;> rw [← Option.some.inj isHead] <;> decide

theorem stops_canonicalFields (fields : Fields) (rest : List Char) :
    Text.Stops isBare (canonicalFields fields ++ rest) := by
  intro first isHead
  cases fields with
  | nil =>
      rw [← Option.some.inj isHead]
      decide
  | cons field others =>
      rw [← Option.some.inj isHead]
      decide

theorem isBare_of_mem_bool (value : Bool) :
    ∀ character ∈ (bool value).canonicalChars, isBare character = true := by
  cases value <;> exact List.all_eq_true.1 rfl

/-! ## Unique readability -/

section

variable {leftRest rightRest : List Char}

/-- The first item of an array is written as the others are, but for the mark before it. -/
theorem canonicalItems_append_eq_of_array {left right : List Value}
    (same : (array left).canonicalChars ++ leftRest = (array right).canonicalChars ++ rightRest) :
    canonicalItems left ++ leftRest = canonicalItems right ++ rightRest := by
  cases left with
  | nil =>
      cases right with
      | nil => exact (List.cons.inj same).2
      | cons other others =>
          simp only [canonicalChars, List.cons_append, List.append_assoc] at same
          exact absurd (List.cons.inj same).2.symm (canonicalChars_append_ne _ _ _ rfl)
  | cons item rest =>
      cases right with
      | nil =>
          simp only [canonicalChars, List.cons_append, List.append_assoc] at same
          exact absurd (List.cons.inj same).2 (canonicalChars_append_ne _ _ _ rfl)
      | cons other others => exact congrArg (List.cons ',') (List.cons.inj same).2

/-- So is the first field of an object. -/
theorem canonicalFields_append_eq_of_object {left right : Fields}
    (same : (object left).canonicalChars ++ leftRest = (object right).canonicalChars ++ rightRest) :
    canonicalFields left ++ leftRest = canonicalFields right ++ rightRest := by
  cases left with
  | nil =>
      cases right with
      | nil => exact (List.cons.inj same).2
      | cons other others => exact absurd (List.cons.inj (List.cons.inj same).2).1 (by decide)
  | cons field rest =>
      cases right with
      | nil => exact absurd (List.cons.inj (List.cons.inj same).2).1 (by decide)
      | cons other others => exact congrArg (List.cons ',') (List.cons.inj same).2

theorem field_append_inj {leftKey rightKey : String} {left right : List Char}
    (same : Json.quoted leftKey ++ ':' :: left = Json.quoted rightKey ++ ':' :: right) :
    leftKey = rightKey ∧ left = right := by
  obtain ⟨sameKey, sameRest⟩ := Json.quoted_append_inj same
  exact ⟨sameKey, (List.cons.inj sameRest).2⟩

end

mutual

/-- A canonical text that is followed by what cannot extend it tells its value and its end. The
induction is on the left value; the first characters leave only values of one kind. -/
theorem canonicalChars_append_inj : ∀ (left right : Value) {leftRest rightRest : List Char},
    Text.Stops isBare leftRest → Text.Stops isBare rightRest →
    left.canonicalChars ++ leftRest = right.canonicalChars ++ rightRest →
      left.withoutNegativeZero = right.withoutNegativeZero ∧ leftRest = rightRest
  | null, right, _, _, _, _, same => by
      have sameKind := kind_eq_of_append_eq same
      cases right with
      | null => exact ⟨rfl, List.append_cancel_left same⟩
      | _ => cases sameKind
  | bool left, right, _, _, leftStops, rightStops, same => by
      have sameKind := kind_eq_of_append_eq same
      cases right with
      | bool right =>
          obtain ⟨sameText, sameRest⟩ := Text.append_inj_of_stops (isBare_of_mem_bool left)
            (isBare_of_mem_bool right) leftStops rightStops same
          refine ⟨?_, sameRest⟩
          cases left <;> cases right <;> first | rfl | exact absurd sameText (by decide)
      | _ => cases sameKind
  | number left, right, _, _, leftStops, rightStops, same => by
      have sameKind := kind_eq_of_append_eq same
      cases right with
      | number right =>
          obtain ⟨sameText, sameRest⟩ := Text.append_inj_of_stops
            left.isBare_of_mem_plainChars right.isBare_of_mem_plainChars leftStops rightStops same
          refine ⟨?_, sameRest⟩
          rw [withoutNegativeZero, withoutNegativeZero, (left.plainChars_eq_iff right).1 sameText]
      | _ => cases sameKind
  | string left, right, _, _, _, _, same => by
      have sameKind := kind_eq_of_append_eq same
      cases right with
      | string right =>
          obtain ⟨sameText, sameRest⟩ := Json.quoted_append_inj same
          exact ⟨congrArg string sameText, sameRest⟩
      | _ => cases sameKind
  | array left, right, _, _, _, _, same => by
      have sameKind := kind_eq_of_append_eq same
      cases right with
      | array right =>
          obtain ⟨sameItems, sameRest⟩ :=
            canonicalItems_append_inj left right (canonicalItems_append_eq_of_array same)
          exact ⟨congrArg array sameItems, sameRest⟩
      | _ => cases sameKind
  | object left, right, _, _, _, _, same => by
      have sameKind := kind_eq_of_append_eq same
      cases right with
      | object right =>
          obtain ⟨sameFields, sameRest⟩ :=
            canonicalFields_append_inj left right (canonicalFields_append_eq_of_object same)
          exact ⟨congrArg object sameFields, sameRest⟩
      | _ => cases sameKind

theorem canonicalItems_append_inj : ∀ (left right : List Value) {leftRest rightRest : List Char},
    canonicalItems left ++ leftRest = canonicalItems right ++ rightRest →
      itemsWithoutNegativeZero left = itemsWithoutNegativeZero right ∧ leftRest = rightRest
  | [], [], _, _, same => ⟨rfl, (List.cons.inj same).2⟩
  | [], _ :: _, _, _, same => absurd (List.cons.inj same).1 (by decide)
  | _ :: _, [], _, _, same => absurd (List.cons.inj same).1 (by decide)
  | item :: rest, other :: others, _, _, same => by
      simp only [canonicalItems, List.cons_append, List.append_assoc, List.cons.injEq,
        true_and] at same
      obtain ⟨sameItem, sameItems⟩ := canonicalChars_append_inj item other
        (stops_canonicalItems _ _) (stops_canonicalItems _ _) same
      obtain ⟨sameOthers, sameRest⟩ := canonicalItems_append_inj rest others sameItems
      refine ⟨?_, sameRest⟩
      rw [itemsWithoutNegativeZero, itemsWithoutNegativeZero, sameItem, sameOthers]

theorem canonicalFields_append_inj : ∀ (left right : List (String × Value))
    {leftRest rightRest : List Char},
    canonicalFields left ++ leftRest = canonicalFields right ++ rightRest →
      fieldsWithoutNegativeZero left = fieldsWithoutNegativeZero right ∧ leftRest = rightRest
  | [], [], _, _, same => ⟨rfl, (List.cons.inj same).2⟩
  | [], (_, _) :: _, _, _, same => absurd (List.cons.inj same).1 (by decide)
  | (_, _) :: _, [], _, _, same => absurd (List.cons.inj same).1 (by decide)
  | (key, item) :: rest, (otherKey, other) :: others, _, _, same => by
      simp only [canonicalFields, List.cons_append, List.append_assoc, List.cons.injEq,
        true_and] at same
      obtain ⟨sameKey, sameValues⟩ := field_append_inj same
      obtain ⟨sameItem, sameFields⟩ := canonicalChars_append_inj item other
        (stops_canonicalFields _ _) (stops_canonicalFields _ _) sameValues
      obtain ⟨sameOthers, sameRest⟩ := canonicalFields_append_inj rest others sameFields
      refine ⟨?_, sameRest⟩
      rw [fieldsWithoutNegativeZero, fieldsWithoutNegativeZero, sameKey, sameItem, sameOthers]

end

/-! ## The same text for both zeros -/

mutual

theorem canonicalChars_withoutNegativeZero : ∀ value : Value,
    value.withoutNegativeZero.canonicalChars = value.canonicalChars
  | null | bool _ | string _ | array [] | object [] => rfl
  | number value => value.plainChars_withoutNegativeZero
  | array (item :: rest) => by
      rw [withoutNegativeZero, itemsWithoutNegativeZero, canonicalChars, canonicalChars,
        canonicalChars_withoutNegativeZero item, canonicalItems_withoutNegativeZero rest]
  | object ((key, item) :: rest) => by
      rw [withoutNegativeZero, fieldsWithoutNegativeZero, canonicalChars, canonicalChars,
        canonicalChars_withoutNegativeZero item, canonicalFields_withoutNegativeZero rest]

theorem canonicalItems_withoutNegativeZero : ∀ items : List Value,
    canonicalItems (itemsWithoutNegativeZero items) = canonicalItems items
  | [] => rfl
  | item :: rest => by
      rw [itemsWithoutNegativeZero, canonicalItems, canonicalItems,
        canonicalChars_withoutNegativeZero item, canonicalItems_withoutNegativeZero rest]

theorem canonicalFields_withoutNegativeZero : ∀ fields : List (String × Value),
    canonicalFields (fieldsWithoutNegativeZero fields) = canonicalFields fields
  | [] => rfl
  | (key, item) :: rest => by
      rw [fieldsWithoutNegativeZero, canonicalFields, canonicalFields,
        canonicalChars_withoutNegativeZero item, canonicalFields_withoutNegativeZero rest]

end

mutual

/-- Equal trees are the same tree but for the sign of zero. -/
theorem withoutNegativeZero_of_equals : ∀ left right : Value, left.equals right = true →
    left.withoutNegativeZero = right.withoutNegativeZero
  | null, right, equal => by
      cases right with
      | null => rfl
      | _ => cases equal
  | bool left, right, equal => by
      cases right with
      | bool right => rw [beq_iff_eq.1 (equal : (left == right) = true)]
      | _ => cases equal
  | number left, right, equal => by
      cases right with
      | number right =>
          exact congrArg number (Number.withoutNegativeZero_of_equals equal)
      | _ => cases equal
  | string left, right, equal => by
      cases right with
      | string right => rw [beq_iff_eq.1 (equal : (left == right) = true)]
      | _ => cases equal
  | array left, right, equal => by
      cases right with
      | array right =>
          rw [equals] at equal
          exact congrArg array (itemsWithoutNegativeZero_of_itemsEqual left right equal)
      | _ => cases equal
  | object left, right, equal => by
      cases right with
      | object right =>
          rw [equals] at equal
          exact congrArg object (fieldsWithoutNegativeZero_of_fieldsEqual left right equal)
      | _ => cases equal

theorem itemsWithoutNegativeZero_of_itemsEqual : ∀ left right : List Value,
    itemsEqual left right = true →
      itemsWithoutNegativeZero left = itemsWithoutNegativeZero right
  | [], [], _ => rfl
  | item :: rest, other :: others, equal => by
      rw [itemsEqual, Bool.and_eq_true] at equal
      rw [itemsWithoutNegativeZero, itemsWithoutNegativeZero,
        withoutNegativeZero_of_equals item other equal.1,
        itemsWithoutNegativeZero_of_itemsEqual rest others equal.2]

theorem fieldsWithoutNegativeZero_of_fieldsEqual : ∀ left right : List (String × Value),
    fieldsEqual left right = true →
      fieldsWithoutNegativeZero left = fieldsWithoutNegativeZero right
  | [], [], _ => rfl
  | (key, item) :: rest, (otherKey, other) :: others, equal => by
      rw [fieldsEqual, Bool.and_eq_true, Bool.and_eq_true, beq_iff_eq] at equal
      obtain ⟨⟨sameKey, equalItem⟩, equalOthers⟩ := equal
      rw [fieldsWithoutNegativeZero, fieldsWithoutNegativeZero, sameKey,
        withoutNegativeZero_of_equals item other equalItem,
        fieldsWithoutNegativeZero_of_fieldsEqual rest others equalOthers]

end

/-! ## Canonical keys -/

theorem kind_withoutNegativeZero (value : Value) :
    value.withoutNegativeZero.kind = value.kind := by
  cases value <;> rfl

theorem canonicalKey_withoutNegativeZero (value : Value) :
    value.withoutNegativeZero.canonicalKey = value.canonicalKey := by
  rw [canonicalKey, canonicalKey, kind_withoutNegativeZero, canonicalChars_withoutNegativeZero]

theorem canonicalKey_eq_iff (left right : Value) :
    left.canonicalKey = right.canonicalKey ↔
      left.withoutNegativeZero = right.withoutNegativeZero := by
  constructor
  · intro same
    have sameChars : left.canonicalChars = right.canonicalChars :=
      (List.cons.inj (List.cons.inj (String.ofList_inj.1 same)).2).2
    have nothing : Text.Stops isBare [] := fun first isHead => by cases isHead
    exact (canonicalChars_append_inj left right nothing nothing (by rw [sameChars])).1
  · intro same
    rw [← canonicalKey_withoutNegativeZero left, same, canonicalKey_withoutNegativeZero]

/-- Two values are the same tree; the zeros count as one number. -/
def IsIdentical (left right : Value) : Prop :=
  left.withoutNegativeZero = right.withoutNegativeZero

theorem isIdentical_iff (left right : Value) :
    left.IsIdentical right ↔ left.canonicalKey = right.canonicalKey :=
  (canonicalKey_eq_iff left right).symm

/-- Two values share their canonical key exactly when they are the same tree but for the sign of
zero: values of different kinds never do, and equal values always do. -/
theorem canonicalKey_exact (left right : Value) :
    (left.canonicalKey = right.canonicalKey ↔
        left.withoutNegativeZero = right.withoutNegativeZero) ∧
      (left.kind ≠ right.kind → left.canonicalKey ≠ right.canonicalKey) ∧
      (left.equals right = true → left.canonicalKey = right.canonicalKey) := by
  refine ⟨canonicalKey_eq_iff left right, ?_, ?_⟩
  · intro otherKind sameKey
    have sameTree := (canonicalKey_eq_iff left right).1 sameKey
    apply otherKind
    rw [← kind_withoutNegativeZero left, sameTree, kind_withoutNegativeZero]
  · intro equal
    exact (canonicalKey_eq_iff left right).2 (withoutNegativeZero_of_equals left right equal)

/-- Marks inside a string do not divide it; the sign of zero does not show, at any depth. -/
theorem canonicalKey_exact_marks :
    (array [string "a\",\"b"]).canonicalKey ≠ (array [string "a", string "b"]).canonicalKey ∧
      (string "1").canonicalKey ≠ (number (.ofNat 1)).canonicalKey ∧
      (object [("k", array [number (.finite true ⟨0, Number.gridSize_pos⟩)])]).canonicalKey =
        (object [("k", array [number .zero])]).canonicalKey := by
  refine ⟨?_, (canonicalKey_exact _ _).2.1 (by decide), (canonicalKey_exact _ _).2.2 (by decide)⟩
  intro sameKey
  have sameTree := (canonicalKey_exact _ _).1.1 sameKey
  simp [withoutNegativeZero, itemsWithoutNegativeZero] at sameTree

end Value

end DocStore
