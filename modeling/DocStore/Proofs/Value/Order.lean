import DocStore.Value.Order

/-!
Contract: the order of values is a total preorder.

Two values are compared by a chain of keys: the place of their kind, then a
number, then two texts, and at last their items one by one. A chain that follows
the items down to a fixed depth is oriented and transitive because each of its
links is, and values that are no deeper are ordered by it.

Owns: `Value.compareWithin` and the laws of `Value.compare` and
`Value.compareOptional`.
-/

namespace DocStore.Value

/-! ## The keys of a value -/

/-- The items of an array; any other value has none. -/
def items : Value → List Value
  | array items => items
  | _ => []

/-- The place of a value among those of its kind, as far as a number tells it. -/
def place : Value → Int
  | bool value => if value then 1 else 0
  | number value => value.rank
  | _ => 0

/-- The text that values of one kind are ordered by first. -/
def label : Value → String
  | string text => Text.lowercase text
  | object fields => (object fields).canonical
  | _ => ""

/-- The text that decides between values with one label. -/
def exactLabel : Value → String
  | string text => text
  | _ => ""

/-! ## Comparison down to a depth -/

/-- The order of values whose arrays are followed down to a depth. -/
def compareWithin : Nat → Value → Value → Ordering
  | 0 => fun _ _ => .eq
  | depth + 1 =>
      compareLex (compareOn fun value => value.kind.rank)
        (compareLex (compareOn place)
          (compareLex (compareOn label)
            (compareLex (compareOn exactLabel) fun left right =>
              List.compareLex (compareWithin depth) left.items right.items)))

instance compareWithin_trans (depth : Nat) : Std.TransCmp (compareWithin depth) := by
  induction depth with
  | zero => exact { eq_swap := rfl, isLE_trans := fun _ _ => rfl }
  | succ depth inductionHypothesis =>
      have byItems : Std.TransCmp fun left right : Value =>
          List.compareLex (compareWithin depth) left.items right.items :=
        { eq_swap := by
            intro left right
            exact @Std.OrientedCmp.eq_swap _ (List.compareLex (compareWithin depth)) _ _ _
          isLE_trans := by
            intro first second third
            exact @Std.TransCmp.isLE_trans _ (List.compareLex (compareWithin depth)) _ _ _ _ }
      unfold compareWithin
      infer_instance

theorem compareItems_eq_compareLex {cmp : Value → Value → Ordering} {left : List Value}
    (agrees : ∀ item ∈ left, ∀ other, compare item other = cmp item other) (right : List Value) :
    compareItems left right = List.compareLex cmp left right := by
  induction left generalizing right with
  | nil => cases right <;> rfl
  | cons item rest inductionHypothesis =>
      cases right with
      | nil => rfl
      | cons other others =>
          have restAgrees := inductionHypothesis
            (fun item member => agrees item (List.mem_cons_of_mem _ member)) others
          rw [compareItems, List.compareLex_cons_cons, restAgrees,
            agrees item (List.mem_cons_self ..) other]

theorem compare_of_kind_ne {left right : Value} (different : left.kind ≠ right.kind) :
    compare left right = Ord.compare left.kind.rank right.kind.rank := by
  cases left <;> cases right <;> first | rfl | exact absurd rfl different

theorem rank_inj {left right : Kind} (same : left.rank = right.rank) : left = right := by
  cases left <;> cases right <;> first | rfl | cases same

/-- Between values of one kind the links behind the first decide. -/
theorem compare_of_kind_eq {left right : Value} (same : left.kind = right.kind) :
    compare left right = (Ord.compare left.place right.place).then
      ((Ord.compare left.label right.label).then
        ((Ord.compare left.exactLabel right.exactLabel).then
          (compareItems left.items right.items))) := by
  cases left with
  | null =>
      cases right with
      | null => rfl
      | _ => cases same
  | bool left =>
      cases right with
      | bool right => cases left <;> cases right <;> rfl
      | _ => cases same
  | number left =>
      cases right with
      | number right => simp [compare, Number.compare, place, label, exactLabel, items, compareItems]
      | _ => cases same
  | string left =>
      cases right with
      | string right => simp [compare, compareStrings, place, label, exactLabel, items, compareItems]
      | _ => cases same
  | array left =>
      cases right with
      | array right => simp [compare, place, label, exactLabel, items]
      | _ => cases same
  | object left =>
      cases right with
      | object right => simp [compare, place, label, exactLabel, items, compareItems]
      | _ => cases same

theorem sizeOf_lt_of_mem_items {value item : Value} (member : item ∈ value.items) :
    sizeOf item < sizeOf value := by
  cases value with
  | array items =>
      have smaller := List.sizeOf_lt_of_mem member
      rw [array.sizeOf_spec]
      exact Nat.lt_add_left 1 smaller
  | _ => exact absurd member List.not_mem_nil

/-- Values are ordered by any chain that goes deeper than the first of them. -/
theorem compare_eq_compareWithin (depth : Nat) : ∀ left right : Value, sizeOf left < depth →
    compare left right = compareWithin depth left right := by
  induction depth with
  | zero => exact fun left right small => absurd small (Nat.not_lt_zero _)
  | succ depth inductionHypothesis =>
      intro left right small
      simp only [compareWithin, compareLex, compareOn]
      by_cases same : left.kind = right.kind
      · have byItems : compareItems left.items right.items =
            List.compareLex (compareWithin depth) left.items right.items := by
          apply compareItems_eq_compareLex
          intro item member other
          have smaller := sizeOf_lt_of_mem_items member
          exact inductionHypothesis item other (by omega)
        rw [compare_of_kind_eq same, byItems, same, Std.ReflOrd.compare_self, Ordering.eq_then]
      · -- The first link decides between values of different kinds.
        have decided : Ord.compare left.kind.rank right.kind.rank ≠ .eq := fun tie =>
          same (rank_inj (Std.LawfulEqOrd.eq_of_compare tie))
        rw [compare_of_kind_ne same]
        cases order : Ord.compare left.kind.rank right.kind.rank with
        | eq => exact absurd order decided
        | lt => rfl
        | gt => rfl

instance compare_trans : Std.TransCmp compare where
  eq_swap {left right} := by
    let depth := sizeOf left + sizeOf right + 1
    rw [compare_eq_compareWithin depth left right (by omega),
      compare_eq_compareWithin depth right left (by omega)]
    exact Std.OrientedCmp.eq_swap
  isLE_trans {first second third} := by
    let depth := sizeOf first + sizeOf second + 1
    rw [compare_eq_compareWithin depth first second (by omega),
      compare_eq_compareWithin depth second third (by omega),
      compare_eq_compareWithin depth first third (by omega)]
    exact Std.TransCmp.isLE_trans

/-! ## Values that may be missing -/

instance compareOptional_trans : Std.TransCmp compareOptional where
  eq_swap {left right} := by
    cases left <;> cases right
    case some.some left right => exact @Std.OrientedCmp.eq_swap _ compare _ left right
    all_goals rfl
  isLE_trans {first second third} := by
    cases first <;> cases second <;> cases third
    case some.some.some first second third => exact @Std.TransCmp.isLE_trans _ compare _ first second third
    all_goals simp [compareOptional]

end DocStore.Value
