import DocStore.Document

/-!
Contract: a write at one path is not seen at a path that diverges from it.

Two paths diverge when both have a segment where they first differ and these
segments cannot be the same place: they are different keys, and not numerals of
one array index. A write may create objects, replace scalars and change items,
but all of it happens below the first segment where the paths part.

Owns: `Path.diverge`, and what is left of a document by writes and by the
removal of a top-level field.
-/

namespace DocStore

namespace Path

/-- Whether two segments are numerals of one array index. -/
def nameOneIndex (left right : String) : Bool :=
  match index? left, index? right with
  | some leftIndex, some rightIndex => leftIndex == rightIndex
  | _, _ => false

/-- Whether two lists of segments part at segments that cannot be the same place. -/
def diverge : List String → List String → Bool
  | left :: leftRest, right :: rightRest =>
      if left = right then diverge leftRest rightRest else !nameOneIndex left right
  | _, _ => false

theorem segments_ne_nil (path : String) : segments path ≠ [] := by
  unfold segments Text.splitAt
  rw [ne_eq, List.map_eq_nil_iff]
  exact Text.pieces_ne_nil '.' path.toList

theorem ne_nil_of_diverge {left right : List String} (apart : diverge left right = true) :
    right ≠ [] := by
  intro empty
  rw [empty] at apart
  cases left <;> cases apart

/-- Segments that part are the places of different items. -/
theorem ne_of_index?_eq {left right : String} {leftIndex rightIndex : Nat}
    (apart : nameOneIndex left right = false) (leftNames : index? left = some leftIndex)
    (rightNames : index? right = some rightIndex) : leftIndex ≠ rightIndex := by
  intro same
  rw [nameOneIndex, leftNames, rightNames] at apart
  exact absurd (beq_iff_eq.2 same) (by simp [apart])

end Path

namespace Value

/-! ## Segments -/

theorem follow?_emptyObject {segments : List String} (nonempty : segments ≠ []) :
    follow? segments (object []) = none := by
  cases segments with
  | nil => exact absurd rfl nonempty
  | cons => rfl

theorem put_of_notArray (new : Value) (segment : String) (rest : List String) {value : Value}
    (notArray : ∀ items, value ≠ array items) :
    put new (segment :: rest) value =
      object (Entries.insert segment
        (put new rest ((Entries.find? segment value.fieldsForWriting).getD (object [])))
        value.fieldsForWriting) := by
  cases value with
  | array items => exact absurd rfl (notArray items)
  | _ => rfl

theorem child?_of_notArray (segment : String) {value : Value}
    (notArray : ∀ items, value ≠ array items) :
    value.child? segment = Entries.find? segment value.fieldsForWriting := by
  cases value with
  | array items => exact absurd rfl (notArray items)
  | _ => rfl

/-- A write inside an item of an array keeps the array and its other items. -/
theorem child?_put_array {new : Value} {segment other : String} {rest : List String}
    {items : List Value} (apart : Path.nameOneIndex segment other = false) :
    (put new (segment :: rest) (array items)).child? other = (array items).child? other := by
  rw [put]
  cases writes : Path.index? segment with
  | none => rfl
  | some index =>
      cases present : items[index]? with
      | none => simp only [present]
      | some item =>
          cases reads : Path.index? other with
          | none => simp only [present, child?, reads, Option.bind_none]
          | some otherIndex =>
              have elsewhere := Path.ne_of_index?_eq apart writes reads
              simp only [present, child?, reads, Option.bind_some]
              exact List.getElem?_set_ne elsewhere

/-- A write keeps the children under segments that cannot be the same place. -/
theorem child?_put_of_apart (new : Value) {segment other : String} (rest : List String)
    (different : segment ≠ other) (apart : Path.nameOneIndex segment other = false)
    (value : Value) : (put new (segment :: rest) value).child? other = value.child? other := by
  by_cases isArray : ∃ items, value = array items
  · obtain ⟨items, rfl⟩ := isArray
    exact child?_put_array apart
  · have notArray : ∀ items, value ≠ array items := fun items isItems =>
      isArray ⟨items, isItems⟩
    rw [put_of_notArray new segment rest notArray, child?_of_notArray other notArray,
      child?, Entries.find?_insert_of_ne (Ne.symm different)]

/-- An array without the item that a segment names is left alone. -/
theorem put_array_of_child?_eq_none (new : Value) {segment : String} (rest : List String)
    {items : List Value} (absent : (array items).child? segment = none) :
    put new (segment :: rest) (array items) = array items := by
  rw [put]
  cases names : Path.index? segment with
  | none => rfl
  | some index =>
      rw [child?, names, Option.bind_some] at absent
      simp only [absent]

/-- Anywhere else a write goes into the child, which is created empty where it is missing. -/
theorem child?_put_self (new : Value) {segment : String} (rest : List String) {value : Value}
    (free : ∀ items, value = array items → value.child? segment ≠ none) :
    (put new (segment :: rest) value).child? segment =
      some (put new rest ((value.child? segment).getD (object []))) := by
  by_cases isArray : ∃ items, value = array items
  · obtain ⟨items, rfl⟩ := isArray
    obtain ⟨item, isChild⟩ := Option.ne_none_iff_exists'.1 (free items rfl)
    rw [isChild, Option.getD_some]
    rw [child?, Option.bind_eq_some_iff] at isChild
    obtain ⟨index, names, present⟩ := isChild
    have inside := (List.getElem?_eq_some_iff.1 present).1
    simp only [put, names, present, child?, Option.bind_some, List.getElem?_set_self inside]
  · have notArray : ∀ items, value ≠ array items := fun items isItems =>
      isArray ⟨items, isItems⟩
    rw [put_of_notArray new segment rest notArray, child?_of_notArray segment notArray, child?,
      Entries.find?_insert_self]

/-- What stands at segments that diverge from those of a write is what stood there. -/
theorem follow?_put_of_diverge (new : Value) {written read : List String}
    (apart : Path.diverge written read = true) (value : Value) :
    follow? read (put new written value) = follow? read value := by
  induction written generalizing read value with
  | nil => cases apart
  | cons segment rest inductionHypothesis =>
      cases read with
      | nil => cases apart
      | cons other others =>
          rw [Path.diverge] at apart
          rw [follow?, follow?]
          by_cases same : segment = other
          · rw [if_pos same] at apart
            subst same
            by_cases obstructed : ∃ items, value = array items ∧ value.child? segment = none
            · obtain ⟨items, rfl, absent⟩ := obstructed
              rw [put_array_of_child?_eq_none new rest absent]
            · have free : ∀ items, value = array items → value.child? segment ≠ none :=
                fun items isItems absent => obstructed ⟨items, isItems, absent⟩
              rw [child?_put_self new rest free, Option.bind_some, inductionHypothesis apart]
              -- A child that was missing is created empty, and nothing is found there.
              cases value.child? segment with
              | none => exact follow?_emptyObject (Path.ne_nil_of_diverge apart)
              | some present => rfl
          · rw [if_neg same, Bool.not_eq_true'] at apart
            rw [child?_put_of_apart new rest same apart]

end Value

/-! ## Field lists and documents -/

namespace Fields

/-- Two field lists that agree at the segments of a path agree at the path. -/
theorem get?_congr {left right : Fields} {path : String}
    (agree : Value.follow? (Path.segments path) (.object left) =
      Value.follow? (Path.segments path) (.object right)) :
    get? left path = get? right path := by
  unfold get?
  cases segments : Path.segments path with
  | nil => rfl
  | cons segment rest =>
      rw [segments] at agree
      cases rest with
      | nil =>
          have found : Entries.find? segment left = Entries.find? segment right := by
            simpa [Value.follow?, Value.child?] using agree
          simp only [found]
      | cons next others =>
          show (Entries.find? segment left).bind (Value.at? (next :: others)) =
            (Entries.find? segment right).bind (Value.at? (next :: others))
          by_cases endsInDot : next :: others = [""]
          · have nothing : Value.at? (next :: others) = fun _ => none := by
              funext value
              rw [Value.at?, if_pos endsInDot]
            rw [nothing, Option.bind_fun_none, Option.bind_fun_none]
          · have follows : Value.at? (next :: others) = Value.follow? (next :: others) := by
              funext value
              rw [Value.at?, if_neg endsInDot]
            rw [follows]
            exact agree

/-- A write goes into the object of the fields, and an object it stays. -/
theorem object_set (fields : Fields) (path : String) (new : Value) :
    Value.object (fields.set path new) = Value.put new (Path.segments path) (.object fields) := by
  cases segments : Path.segments path with
  | nil => exact absurd segments (Path.segments_ne_nil path)
  | cons segment rest => simp only [set, Value.set, segments, Value.put, Value.fieldsForWriting]

theorem get?_set_of_diverge (fields : Fields) {path other : String} (new : Value)
    (apart : Path.diverge (Path.segments path) (Path.segments other) = true) :
    (fields.set path new).get? other = fields.get? other := by
  apply get?_congr
  rw [object_set]
  exact Value.follow?_put_of_diverge new apart (.object fields)

/-- The removal of a top-level field is not seen at paths with another first segment. -/
theorem get?_erase_of_diverge (fields : Fields) {name other : String}
    (apart : Path.diverge [name] (Path.segments other) = true) :
    get? (Entries.erase name fields) other = fields.get? other := by
  apply get?_congr
  cases segments : Path.segments other with
  | nil =>
      rw [segments] at apart
      cases apart
  | cons first rest =>
      have different : first ≠ name := by
        intro same
        rw [segments, Path.diverge, if_pos same.symm] at apart
        cases apart
      rw [Value.follow?, Value.follow?, Value.child?, Value.child?,
        Entries.find?_erase_of_ne different]

end Fields

namespace Document

theorem get?_set_of_diverge (document : Document) {path other : String} (new : Value)
    (apart : Path.diverge (Path.segments path) (Path.segments other) = true) :
    (document.set path new).get? other = document.get? other :=
  Fields.get?_set_of_diverge document.fields new apart

/-- A path without a dot is removed from the outermost fields alone. -/
theorem remove_of_topLevel (document : Document) {name : String}
    (topLevel : Path.segments name = [name]) :
    (document.remove name).2 = ⟨Entries.erase name document.fields⟩ := by
  unfold remove Fields.remove? Value.remove?
  rw [topLevel, Value.detach?]
  cases present : Entries.find? name document.fields with
  | none =>
      show document = _
      rw [Entries.erase_of_find?_eq_none present]
  | some removed => rfl

theorem get?_remove_of_diverge (document : Document) {name other : String}
    (topLevel : Path.segments name = [name])
    (apart : Path.diverge (Path.segments name) (Path.segments other) = true) :
    (document.remove name).2.get? other = document.get? other := by
  rw [topLevel] at apart
  rw [remove_of_topLevel document topLevel]
  exact Fields.get?_erase_of_diverge document.fields apart

end Document

end DocStore
