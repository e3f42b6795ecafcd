import DocStore.Proofs.Text.Split
import DocStore.Proofs.Text.Suffix
import DocStore.Proofs.Value.Frame
import DocStore.Proofs.Value.Ordered

/-!
Contract: reading, writing and removing by paths fit together.

What is written at a path is read there, unless the way leads to an array at a
segment that is no index inside it: then nothing at all is written, since
objects are created only where nothing stands. Of two writes at one path the
second wins. A removal takes out what is read at the path; where that was a
field of an object, nothing is read there afterwards. What stands at diverging
paths stays.

Owns: `Path.IsReadable`, `Path.IsDottedName`, `Value.Obstructs`, `Value.wrapped`,
`Value.HoldsField` and the laws of reading after writing and after removal.
-/

namespace DocStore

/-! ## Readable paths -/

namespace Path

/-- A path at which documents are read where they are written: not empty, and not one field name
with a dot behind it. -/
def IsReadable (path : String) : Prop := segments path ≠ [""] ∧ (segments path).tail ≠ [""]

instance (path : String) : Decidable (IsReadable path) := by
  unfold IsReadable
  infer_instance

theorem toList_segments (path : String) :
    (segments path).map String.toList = Text.pieces '.' path.toList := by
  unfold segments Text.splitAt
  rw [List.map_map]
  exact List.map_id'' (fun _ => String.toList_ofList) _

/-- A path is its segments with dots between them. -/
theorem joined_segments (path : String) :
    Text.joined '.' ((segments path).map String.toList) = path.toList := by
  rw [toList_segments, Text.joined_pieces]

/-- A single name with a dot behind it. -/
def IsDottedName (path : String) : Prop := ∃ name, '.' ∉ name.toList ∧ path = name ++ "."

theorem segments_eq_empty_iff (path : String) : segments path = [""] ↔ path = "" := by
  constructor
  · intro alone
    have rejoined := joined_segments path
    rw [alone] at rejoined
    exact String.toList_inj.1 rejoined.symm
  · rintro rfl
    rfl

theorem tail_segments_eq_empty_iff (path : String) :
    (segments path).tail = [""] ↔ IsDottedName path := by
  constructor
  · intro lastEmpty
    have rejoined := joined_segments path
    cases shape : segments path with
    | nil => exact absurd shape (segments_ne_nil path)
    | cons first rest =>
        rw [shape, List.tail_cons] at lastEmpty
        rw [shape, lastEmpty] at rejoined
        refine ⟨first, ?_, ?_⟩
        · have member : first.toList ∈ Text.pieces '.' path.toList := by
            rw [← toList_segments, shape]
            exact List.mem_map_of_mem List.mem_cons_self
          exact Text.not_mem_of_mem_pieces member
        · rw [← String.toList_inj, String.toList_append, ← rejoined]
          rfl
  · rintro ⟨name, plain, rfl⟩
    have dotted : (name ++ ".").toList = name.toList ++ '.' :: [] := String.toList_append
    unfold segments Text.splitAt
    rw [dotted, Text.pieces_append_separator plain]
    rfl

theorem isReadable_iff (path : String) : IsReadable path ↔ path ≠ "" ∧ ¬IsDottedName path := by
  unfold IsReadable
  rw [ne_eq, ne_eq, ne_eq, segments_eq_empty_iff, tail_segments_eq_empty_iff]

theorem isReadable_of_not_endsWith {path : String} (nonempty : path ≠ "")
    (closed : Text.endsWith path "." = false) : IsReadable path := by
  refine (isReadable_iff path).2 ⟨nonempty, ?_⟩
  rintro ⟨name, _, dotted⟩
  have ends := (Text.endsWith_iff path ".").2 ⟨name, dotted⟩
  rw [closed] at ends
  cases ends

end Path

namespace Fields

/-- A readable path is read segment by segment, the field list as the outermost object. -/
theorem get?_eq_follow? (fields : Fields) {path : String} (readable : Path.IsReadable path) :
    fields.get? path = Value.follow? (Path.segments path) (.object fields) := by
  unfold Path.IsReadable at readable
  unfold get?
  cases shape : Path.segments path with
  | nil => exact absurd shape (Path.segments_ne_nil path)
  | cons segment rest =>
      rw [shape, List.tail_cons] at readable
      cases rest with
      | nil =>
          have named : segment ≠ "" := fun empty => readable.1 (by rw [empty])
          simp only [named, reduceIte, Value.follow?, Value.child?]
          rw [Option.bind_fun_some]
      | cons next others =>
          have follows : Value.at? (next :: others) = Value.follow? (next :: others) := by
            funext value
            rw [Value.at?, if_neg readable.2]
          simp only [follows, Value.follow?, Value.child?]

/-- Something is found at readable paths only. -/
theorem isReadable_of_get? {fields : Fields} {path : String} {value : Value}
    (found : fields.get? path = some value) : Path.IsReadable path := by
  unfold get? at found
  cases shape : Path.segments path with
  | nil => exact absurd shape (Path.segments_ne_nil path)
  | cons segment rest =>
      rw [shape] at found
      unfold Path.IsReadable
      rw [shape, List.tail_cons]
      constructor
      · intro alone
        cases alone
        simp at found
      · intro lastEmpty
        subst lastEmpty
        obtain ⟨present, _, reached⟩ := Option.bind_eq_some_iff.1 found
        rw [Value.at?, if_pos rfl] at reached
        cases reached

end Fields

namespace Value

/-! ## Obstructed ways -/

/-- The way along segments leads to an array at a segment that is no index inside it. -/
def Obstructs (value : Value) (segments : List String) : Prop :=
  ∃ front segment rest items, segments = front ++ segment :: rest ∧
    value.follow? front = some (array items) ∧
    ∀ index, Path.index? segment = some index → items.length ≤ index

theorem child?_array_eq_none_iff (segment : String) (items : List Value) :
    (array items).child? segment = none ↔
      ∀ index, Path.index? segment = some index → items.length ≤ index := by
  rw [child?, Option.bind_eq_none_iff]
  simp only [List.getElem?_eq_none_iff]

/-- The obstruction is the value itself, or it lies behind the first child. -/
theorem obstructs_cons_iff (value : Value) (segment : String) (rest : List String) :
    value.Obstructs (segment :: rest) ↔
      (∃ items, value = array items ∧ value.child? segment = none) ∨
        ∃ child, value.child? segment = some child ∧ child.Obstructs rest := by
  constructor
  · rintro ⟨front, stop, back, items, shape, reached, outside⟩
    cases front with
    | nil =>
        cases shape
        cases reached
        exact .inl ⟨items, rfl, (child?_array_eq_none_iff segment items).2 outside⟩
    | cons first others =>
        obtain ⟨rfl, restShape⟩ := List.cons.inj shape
        rw [follow?, Option.bind_eq_some_iff] at reached
        obtain ⟨child, isChild, reachedBelow⟩ := reached
        exact .inr ⟨child, isChild, others, stop, back, items, restShape, reachedBelow, outside⟩
  · rintro (⟨items, rfl, absent⟩ | ⟨child, isChild, below⟩)
    · exact ⟨[], segment, rest, items, rfl, rfl, (child?_array_eq_none_iff segment items).1 absent⟩
    · obtain ⟨front, stop, back, items, shape, reached, outside⟩ := below
      refine ⟨segment :: front, stop, back, items, by rw [shape]; rfl, ?_, outside⟩
      rw [follow?, isChild, Option.bind_some, reached]

theorem not_obstructs_nil (value : Value) : ¬value.Obstructs [] := by
  rintro ⟨front, segment, rest, items, shape, _⟩
  exact List.append_ne_nil_of_right_ne_nil front (List.cons_ne_nil segment rest) shape.symm

/-- An obstruction is found by following the segments. -/
instance decidableObstructs : ∀ (segments : List String) (value : Value),
    Decidable (value.Obstructs segments)
  | [], value => isFalse (not_obstructs_nil value)
  | segment :: rest, value =>
      match isChild : value.child? segment with
      | some child =>
          have := decidableObstructs rest child
          decidable_of_iff (child.Obstructs rest) (by simp [obstructs_cons_iff, isChild])
      | none =>
          match value with
          | array items => isTrue ((obstructs_cons_iff ..).2 (.inl ⟨items, rfl, isChild⟩))
          | null | bool _ | number _ | string _ | object _ =>
              isFalse (by simp [obstructs_cons_iff, isChild])

theorem not_obstructs_emptyObject (segments : List String) : ¬(object []).Obstructs segments := by
  cases segments with
  | nil => exact not_obstructs_nil _
  | cons segment rest =>
      rw [obstructs_cons_iff]
      rintro (⟨items, isArray, _⟩ | ⟨child, isChild, _⟩)
      · cases isArray
      · cases isChild

/-! ## Reading after writing -/

/-- What is written is read again where nothing obstructs the way. -/
theorem follow?_put_self (new : Value) {segments : List String} {value : Value}
    (free : ¬value.Obstructs segments) : follow? segments (put new segments value) = some new := by
  induction segments generalizing value with
  | nil => rfl
  | cons segment rest inductionHypothesis =>
      rw [obstructs_cons_iff, not_or] at free
      have reaches : ∀ items, value = array items → value.child? segment ≠ none :=
        fun items isArray absent => free.1 ⟨items, isArray, absent⟩
      rw [follow?, child?_put_self new rest reaches, Option.bind_some]
      apply inductionHypothesis
      cases isChild : value.child? segment with
      | none => exact not_obstructs_emptyObject rest
      | some child => exact fun obstructed => free.2 ⟨child, isChild, obstructed⟩

/-- A child that is there is replaced. -/
theorem child?_put_child (new : Value) {value child : Value} {segment : String}
    (isChild : value.child? segment = some child) :
    (put new [segment] value).child? segment = some new := by
  apply child?_put_self new []
  rw [isChild]
  exact fun _ _ => Option.some_ne_none child

/-- The children of an ordered value are ordered. -/
theorem isOrdered_of_child? {value child : Value} {segment : String}
    (ordered : value.isOrdered = true) (isChild : value.child? segment = some child) :
    child.isOrdered = true := by
  cases value with
  | array items =>
      rw [isOrdered, itemsOrdered_iff] at ordered
      rw [child?, Option.bind_eq_some_iff] at isChild
      obtain ⟨index, _, present⟩ := isChild
      exact ordered child (List.mem_of_getElem? present)
  | object fields =>
      rw [isOrdered_object_iff] at ordered
      exact ordered.2 (segment, child) ((ordered.1.mem_iff_find? segment child).2 isChild)
  | _ => cases isChild

/-- Writing what a child is already changes nothing. -/
theorem put_child? {value child : Value} {segment : String} (ordered : value.isOrdered = true)
    (isChild : value.child? segment = some child) : put child [segment] value = value := by
  cases value with
  | array items =>
      rw [child?, Option.bind_eq_some_iff] at isChild
      obtain ⟨index, names, present⟩ := isChild
      simp only [put, names, present]
      rw [List.getElem?_eq_some_iff] at present
      obtain ⟨inside, isItem⟩ := present
      rw [← isItem, List.set_getElem_self]
  | object fields =>
      rw [isOrdered_object_iff] at ordered
      rw [put, put, fieldsForWriting, Entries.insert_of_find?_eq_some ordered.1 isChild]
      exact fun _ isArray => Value.noConfusion isArray
  | _ => cases isChild

/-- A write below a child changes that child alone. -/
theorem put_cons_of_child? (new : Value) {value child : Value} {segment : String}
    (rest : List String) (isChild : value.child? segment = some child) :
    put new (segment :: rest) value = put (put new rest child) [segment] value := by
  cases value with
  | array items =>
      rw [child?, Option.bind_eq_some_iff] at isChild
      obtain ⟨index, names, present⟩ := isChild
      simp only [put, names, present]
  | object fields =>
      have present : Entries.find? segment fields = some child := isChild
      simp only [put, fieldsForWriting, present, Option.getD_some]
  | _ => cases isChild

/-- Nothing is written where something obstructs the way. -/
theorem put_of_obstructs (new : Value) {segments : List String} {value : Value}
    (ordered : value.isOrdered = true) (obstructed : value.Obstructs segments) :
    put new segments value = value := by
  induction segments generalizing value with
  | nil => exact absurd obstructed (not_obstructs_nil value)
  | cons segment rest inductionHypothesis =>
      rw [obstructs_cons_iff] at obstructed
      rcases obstructed with ⟨items, rfl, absent⟩ | ⟨child, isChild, below⟩
      · exact put_array_of_child?_eq_none new rest absent
      · rw [put_cons_of_child? new rest isChild,
          inductionHypothesis (isOrdered_of_child? ordered isChild) below,
          put_child? ordered isChild]

/-- Of two writes at the same segments the second wins. -/
theorem put_put (first second : Value) (segments : List String) (value : Value) :
    put second segments (put first segments value) = put second segments value := by
  induction segments generalizing value with
  | nil => rfl
  | cons segment rest inductionHypothesis =>
      by_cases isArray : ∃ items, value = array items
      · obtain ⟨items, rfl⟩ := isArray
        cases isChild : (array items).child? segment with
        | none =>
            rw [put_array_of_child?_eq_none first rest isChild]
        | some child =>
            rw [child?, Option.bind_eq_some_iff] at isChild
            obtain ⟨index, names, present⟩ := isChild
            have inside := (List.getElem?_eq_some_iff.1 present).1
            simp only [put, names, present, List.getElem?_set_self inside, List.set_set,
              inductionHypothesis]
      · have notArray : ∀ items, value ≠ array items := fun items isItems =>
          isArray ⟨items, isItems⟩
        rw [put_of_notArray first segment rest notArray,
          put_of_notArray second segment rest notArray,
          put_of_notArray second segment rest fun _ isItems => Value.noConfusion isItems,
          fieldsForWriting, Entries.find?_insert_self, Option.getD_some, inductionHypothesis,
          Entries.insert_insert]

/-- A value inside objects with one field each, the way of some segments. -/
def wrapped (value : Value) : List String → Value
  | [] => value
  | segment :: rest => object [(segment, value.wrapped rest)]

/-- Where nothing stands, a write creates an object for every segment and nothing else. -/
theorem put_emptyObject (new : Value) (segments : List String) :
    put new segments (object []) = new.wrapped segments := by
  induction segments with
  | nil => rfl
  | cons segment rest inductionHypothesis =>
      have single : put new (segment :: rest) (object []) =
        object [(segment, put new rest (object []))] := rfl
      rw [single, inductionHypothesis, wrapped]

theorem wrapped_inj {left right : Value} {segments : List String}
    (same : left.wrapped segments = right.wrapped segments) : left = right := by
  induction segments with
  | nil => exact same
  | cons segment rest inductionHypothesis =>
      rw [wrapped, wrapped] at same
      injection same with sameFields
      exact inductionHypothesis (Prod.mk.inj (List.cons.inj sameFields).1).2

/-! ## Removal -/

/-- What stands at some segments is a field of an object, and not an item of an array. -/
def HoldsField (value : Value) (segments : List String) : Prop :=
  ∃ fields, value.follow? segments.dropLast = some (object fields)

/-- A removal below a child changes that child alone. -/
theorem detach?_cons (segment : String) {rest : List String} (below : rest ≠ []) (value : Value) :
    detach? (segment :: rest) value =
      (value.child? segment).bind fun child =>
        (detach? rest child).map fun (removed, remaining) =>
          (removed, put remaining [segment] value) := by
  obtain ⟨next, others, rfl⟩ := List.exists_cons_of_ne_nil below
  cases value with
  | array items =>
      simp only [detach?, child?, Option.bind_assoc]
      cases names : Path.index? segment with
      | none => rfl
      | some index =>
          cases present : items[index]? with
          | none => simp [present]
          | some child =>
              cases taken : detach? (next :: others) child <;> simp [taken, put, names, present]
  | object fields =>
      simp only [detach?, child?]
      cases Entries.find? segment fields with
      | none => rfl
      | some child =>
          cases taken : detach? (next :: others) child <;> simp [taken, put, fieldsForWriting]
  | _ => rfl

/-- A removal takes out what is read. -/
theorem map_fst_detach? {segments : List String} (nonempty : segments ≠ []) (value : Value) :
    (detach? segments value).map Prod.fst = follow? segments value := by
  induction segments generalizing value with
  | nil => exact absurd rfl nonempty
  | cons segment rest inductionHypothesis =>
      by_cases last : rest = []
      · subst last
        rw [follow?]
        cases value with
        | array items =>
            simp only [detach?, child?]
            cases names : Path.index? segment with
            | none => rfl
            | some index => cases present : items[index]? <;> simp [present, follow?]
        | object fields =>
            cases present : Entries.find? segment fields <;>
              simp [detach?, child?, present, follow?]
        | _ => rfl
      · rw [detach?_cons segment last, follow?]
        cases value.child? segment with
        | none => rfl
        | some child =>
            simp only [Option.bind_some, Option.map_map]
            exact inductionHypothesis last child

section Removal

variable {segments : List String} {value removed remaining : Value}

/-- A field is taken out of the outermost object, or out of a child that is put back. -/
theorem detach?_field_cases {segment : String} {rest : List String}
    (isField : value.HoldsField (segment :: rest))
    (taken : detach? (segment :: rest) value = some (removed, remaining)) :
    (∃ fields, rest = [] ∧ value = object fields ∧
        remaining = object (Entries.erase segment fields)) ∨
      ∃ child left, value.child? segment = some child ∧ child.HoldsField rest ∧
        detach? rest child = some (removed, left) ∧ remaining = put left [segment] value := by
  obtain ⟨fields, container⟩ := isField
  by_cases last : rest = []
  · subst last
    cases container
    rw [detach?, Option.map_eq_some_iff] at taken
    obtain ⟨_, _, same⟩ := taken
    cases same
    exact .inl ⟨fields, rfl, rfl, rfl⟩
  · rw [List.dropLast_cons_of_ne_nil last, follow?, Option.bind_eq_some_iff] at container
    obtain ⟨child, isChild, container⟩ := container
    rw [detach?_cons segment last, isChild, Option.bind_some, Option.map_eq_some_iff] at taken
    obtain ⟨⟨_, left⟩, taken, same⟩ := taken
    cases same
    exact .inr ⟨child, left, isChild, ⟨fields, container⟩, taken, rfl⟩

/-- A field that is taken out of an object is not read again. -/
theorem follow?_detach?_self (isField : value.HoldsField segments)
    (taken : detach? segments value = some (removed, remaining)) :
    follow? segments remaining = none := by
  induction segments generalizing value remaining with
  | nil => cases taken
  | cons segment rest inductionHypothesis =>
      rcases detach?_field_cases isField taken with
        ⟨fields, rfl, rfl, rfl⟩ | ⟨child, left, isChild, isFieldBelow, takenBelow, rfl⟩
      · rw [follow?, child?, Entries.find?_erase_self, Option.bind_none]
      · rw [follow?, child?_put_child left isChild, Option.bind_some]
        exact inductionHypothesis isFieldBelow takenBelow

/-- Taking out a field of an object is not seen at diverging segments. -/
theorem follow?_detach?_of_diverge {read : List String} (isField : value.HoldsField segments)
    (taken : detach? segments value = some (removed, remaining))
    (apart : Path.diverge segments read = true) : follow? read remaining = follow? read value := by
  induction segments generalizing read value remaining with
  | nil => cases taken
  | cons segment rest inductionHypothesis =>
      cases read with
      | nil => cases apart
      | cons other others =>
          rw [Path.diverge] at apart
          rw [follow?, follow?]
          rcases detach?_field_cases isField taken with
            ⟨fields, rfl, rfl, rfl⟩ | ⟨child, left, isChild, isFieldBelow, takenBelow, rfl⟩
          · have different : other ≠ segment := by
              intro same
              rw [if_pos same.symm] at apart
              cases apart
            rw [child?, child?, Entries.find?_erase_of_ne different]
          · by_cases same : segment = other
            · subst same
              rw [if_pos rfl] at apart
              rw [child?_put_child left isChild, isChild, Option.bind_some, Option.bind_some]
              exact inductionHypothesis isFieldBelow takenBelow apart
            · rw [if_neg same, Bool.not_eq_true'] at apart
              rw [child?_put_of_apart left [] same apart]

end Removal

end Value

/-! ## Documents -/

namespace Document

variable {document : Document} {path : String}

theorem toValue_set (document : Document) (path : String) (new : Value) :
    (document.set path new).toValue = Value.put new (Path.segments path) document.toValue :=
  document.fields.object_set path new

theorem toValue_set_empty (path : String) (value : Value) :
    (empty.set path value).toValue = value.wrapped (Path.segments path) := by
  rw [toValue_set]
  exact Value.put_emptyObject value (Path.segments path)

theorem toValue_inj {left right : Document} (same : left.toValue = right.toValue) :
    left = right := by
  cases left
  cases right
  cases same
  rfl

theorem get?_eq_follow? (document : Document) (readable : Path.IsReadable path) :
    document.get? path = document.toValue.follow? (Path.segments path) :=
  document.fields.get?_eq_follow? readable

theorem get?_set_self (new : Value) (readable : Path.IsReadable path)
    (free : ¬document.toValue.Obstructs (Path.segments path)) :
    (document.set path new).get? path = some new := by
  rw [get?_eq_follow? _ readable, toValue_set]
  exact Value.follow?_put_self new free

theorem set_of_obstructs (document : OrderedDocument) (new : Value)
    (obstructed : document.toValue.Obstructs (Path.segments path)) :
    document.set path new = document.toDocument := by
  apply toValue_inj
  rw [toValue_set]
  exact Value.put_of_obstructs new document.ordered obstructed

theorem set_set (document : Document) (path : String) (first second : Value) :
    (document.set path first).set path second = document.set path second := by
  apply toValue_inj
  rw [toValue_set, toValue_set, toValue_set, Value.put_put]

/-- What is left of an object is an object. -/
theorem exists_toValue_of_detach? {segments : List String} {removed remaining : Value}
    (taken : document.toValue.detach? segments = some (removed, remaining)) :
    ∃ left : Document, remaining = left.toValue := by
  rw [toValue] at taken
  cases segments with
  | nil => cases taken
  | cons segment rest =>
      by_cases last : rest = []
      · subst last
        rw [Value.detach?, Option.map_eq_some_iff] at taken
        obtain ⟨_, _, same⟩ := taken
        cases same
        exact ⟨⟨_⟩, rfl⟩
      · rw [Value.detach?_cons segment last, Option.bind_eq_some_iff] at taken
        obtain ⟨child, _, taken⟩ := taken
        rw [Option.map_eq_some_iff] at taken
        obtain ⟨_, _, same⟩ := taken
        cases same
        exact ⟨⟨_⟩, rfl⟩

/-- A removal takes out something and leaves the rest, or it finds nothing and changes nothing. -/
theorem remove_cases (document : Document) (path : String) :
    (document.toValue.detach? (Path.segments path) = none ∧
        document.remove path = (none, document)) ∨
      ∃ removed left, document.toValue.detach? (Path.segments path) =
          some (removed, left.toValue) ∧ document.remove path = (some removed, left) := by
  have unfolded : document.remove path =
      match (document.toValue.detach? (Path.segments path)).map fun (removed, remaining) =>
        (removed, remaining.fieldsForWriting) with
      | some (removed, fields) => (some removed, ⟨fields⟩)
      | none => (none, document) := rfl
  cases taken : document.toValue.detach? (Path.segments path) with
  | none =>
      rw [taken] at unfolded
      exact .inl ⟨rfl, unfolded⟩
  | some pair =>
      obtain ⟨removed, remaining⟩ := pair
      obtain ⟨left, rfl⟩ := exists_toValue_of_detach? taken
      rw [taken] at unfolded
      exact .inr ⟨removed, left, rfl, unfolded⟩

/-- A removal takes out what stands at the segments, at readable paths and at others. -/
theorem remove_fst_eq_follow? (document : Document) (path : String) :
    (document.remove path).1 = document.toValue.follow? (Path.segments path) := by
  rw [← Value.map_fst_detach? (Path.segments_ne_nil path) document.toValue]
  rcases document.remove_cases path with ⟨taken, removal⟩ | ⟨removed, left, taken, removal⟩
  · rw [removal, taken, Option.map_none]
  · rw [removal, taken, Option.map_some]

/-- A removal that takes out nothing changes nothing. -/
theorem remove_snd_of_fst_eq_none (nothing : (document.remove path).1 = none) :
    (document.remove path).2 = document := by
  rcases document.remove_cases path with ⟨_, removal⟩ | ⟨removed, left, _, removal⟩
  · rw [removal]
  · rw [removal] at nothing
    cases nothing

theorem remove_fst (document : Document) (readable : Path.IsReadable path) :
    (document.remove path).1 = document.get? path := by
  rw [get?_eq_follow? document readable, remove_fst_eq_follow?]

theorem remove_snd_of_absent (readable : Path.IsReadable path)
    (absent : document.get? path = none) : (document.remove path).2 = document := by
  rw [← document.remove_fst readable] at absent
  exact remove_snd_of_fst_eq_none absent

theorem get?_remove_self (readable : Path.IsReadable path)
    (isField : document.toValue.HoldsField (Path.segments path)) :
    (document.remove path).2.get? path = none := by
  rcases document.remove_cases path with ⟨_, removal⟩ | ⟨removed, left, taken, removal⟩
  · rw [removal, get?_eq_follow? document readable, ← remove_fst_eq_follow?, removal]
  · rw [removal, get?_eq_follow? left readable]
    exact Value.follow?_detach?_self isField taken

theorem get?_remove_of_holdsField (isField : document.toValue.HoldsField (Path.segments path))
    {other : String} (apart : Path.diverge (Path.segments path) (Path.segments other) = true) :
    (document.remove path).2.get? other = document.get? other := by
  rcases document.remove_cases path with ⟨_, removal⟩ | ⟨removed, left, taken, removal⟩
  · rw [removal]
  · rw [removal]
    exact Fields.get?_congr (Value.follow?_detach?_of_diverge isField taken apart)

/-- Writing, reading and removing at a path that is not empty and does not end in a dot. -/
theorem lens_laws (document : OrderedDocument) (nonempty : path ≠ "")
    (closed : Text.endsWith path "." = false) :
    (∀ new, document.toValue.Obstructs (Path.segments path) →
        document.set path new = document.toDocument) ∧
      (∀ new, ¬document.toValue.Obstructs (Path.segments path) →
        (document.set path new).get? path = some new) ∧
      (∀ first second, (document.set path first).set path second = document.set path second) ∧
      (∀ new other, Path.diverge (Path.segments path) (Path.segments other) = true →
        (document.set path new).get? other = document.get? other) ∧
      (document.remove path).1 = document.get? path ∧
      (document.get? path = none → (document.remove path).2 = document.toDocument) ∧
      (document.toValue.HoldsField (Path.segments path) →
        (document.remove path).2.get? path = none ∧
          ∀ other, Path.diverge (Path.segments path) (Path.segments other) = true →
            (document.remove path).2.get? other = document.get? other) := by
  have readable := Path.isReadable_of_not_endsWith nonempty closed
  refine ⟨?_, ?_, document.set_set path, ?_, document.remove_fst readable,
    remove_snd_of_absent readable, ?_⟩
  · exact fun new obstructed => set_of_obstructs document new obstructed
  · exact fun new free => get?_set_self new readable free
  · exact fun new other apart => document.get?_set_of_diverge new apart
  · exact fun isField => ⟨get?_remove_self readable isField,
      fun other apart => get?_remove_of_holdsField isField apart⟩

/-- Items are found by any numeral of their index; a path beyond the last item writes nothing. -/
theorem lens_laws_listed :
    let document : OrderedDocument :=
      { fields := [("a", .array [.object [("b", .null), ("c", .bool true)]]), ("d", .string "x")] }
    document.set "a.1.b" (.bool false) = document.toDocument ∧
      (document.set "a.+00.b" (.bool false)).get? "a.+00.b" = some (.bool false) ∧
      (document.remove "a.+00.b").2.get? "a.+00.b" = none ∧
      (document.remove "a.+00.b").2.get? "a.+00.c" = document.get? "a.+00.c" := by
  intro document
  have beyond := @lens_laws "a.1.b" document (by decide) (by decide)
  have inside := @lens_laws "a.+00.b" document (by decide) (by decide)
  have isField : document.toValue.HoldsField (Path.segments "a.+00.b") :=
    ⟨[("b", .null), ("c", .bool true)], rfl⟩
  have removal := inside.2.2.2.2.2.2 isField
  exact ⟨beyond.1 _ (by decide), inside.2.1 _ (by decide), removal.1,
    removal.2 "a.+00.c" (by decide)⟩

end Document

end DocStore
