import DocStore.Proofs.Value.Lens

/-!
Contract: at which paths documents and values agree on what stands there.

A value reads all segments of a path in one walk, a document reads its first
segment and leaves the rest to the value found there, and a removal goes down
without either. The empty path stands for nothing wherever a path is read, and
what follows the first dot is read as a path of its own. So a document finds
nothing behind a single name with a dot, where a value and a removal find the
field with the empty name; at the empty path itself only a removal finds it.
Everywhere else the three agree.

Owns: the exact conditions for their agreement.
-/

namespace DocStore

namespace Value

theorem get?_of_nonempty (value : Value) {path : String} (nonempty : path ≠ "") :
    value.get? path = value.follow? (Path.segments path) := by
  rw [get?, at?, if_neg fun alone => nonempty ((Path.segments_eq_empty_iff path).1 alone)]

end Value

namespace Document

variable {path : String}

/-- Nothing is found at paths that are not readable. -/
theorem get?_of_not_isReadable (document : Document) (unreadable : ¬Path.IsReadable path) :
    document.get? path = none := by
  cases found : document.get? path with
  | none => rfl
  | some value => exact absurd (Fields.isReadable_of_get? found) unreadable

theorem get?_of_isDottedName (document : Document) (dotted : Path.IsDottedName path) :
    document.get? path = none :=
  document.get?_of_not_isReadable fun readable => ((Path.isReadable_iff path).1 readable).2 dotted

/-- Behind a single name with a dot a document finds nothing, whatever its value finds. -/
theorem get?_eq_toValue_get?_iff (document : Document) (path : String) :
    document.get? path = document.toValue.get? path ↔
      (Path.IsDottedName path → document.toValue.get? path = none) := by
  constructor
  · intro agree dotted
    rw [← agree, document.get?_of_isDottedName dotted]
  · intro hidden
    by_cases dotted : Path.IsDottedName path
    · rw [hidden dotted, document.get?_of_isDottedName dotted]
    · by_cases empty : path = ""
      · subst empty
        rfl
      · rw [document.get?_eq_follow? ((Path.isReadable_iff path).2 ⟨empty, dotted⟩),
          document.toValue.get?_of_nonempty empty]

/-- A removal takes out what is read, and nothing where nothing is read, exactly when nothing
stands where documents do not look. -/
theorem remove_agrees_iff (document : Document) (path : String) :
    ((document.remove path).1 = document.get? path ∧
        (document.get? path = none → (document.remove path).2 = document)) ↔
      (¬Path.IsReadable path → document.toValue.follow? (Path.segments path) = none) := by
  rw [remove_fst_eq_follow?]
  constructor
  · rintro ⟨agree, _⟩ unreadable
    rw [agree, document.get?_of_not_isReadable unreadable]
  · intro hidden
    have agree : document.toValue.follow? (Path.segments path) = document.get? path := by
      by_cases readable : Path.IsReadable path
      · rw [document.get?_eq_follow? readable]
      · rw [hidden readable, document.get?_of_not_isReadable readable]
    refine ⟨agree, fun absent => remove_snd_of_fst_eq_none ?_⟩
    rw [remove_fst_eq_follow?, agree, absent]

/-- A document and its value read the same, and a removal takes out what the document reads, save
for the field with the empty name: a document does not find it behind a single name with a dot,
and a removal finds it at the empty path too. -/
theorem readings_agree_iff (document : Document) (path : String) :
    (document.get? path = document.toValue.get? path ↔
        (Path.IsDottedName path → document.toValue.get? path = none)) ∧
      ((document.remove path).1 = document.get? path ∧
          (document.get? path = none → (document.remove path).2 = document) ↔
        (Path.IsDottedName path → document.toValue.get? path = none) ∧
          (path = "" → document.toValue.child? "" = none)) := by
  refine ⟨document.get?_eq_toValue_get?_iff path, ?_⟩
  rw [remove_agrees_iff, Path.isReadable_iff]
  by_cases empty : path = ""
  · subst empty
    have undotted : ¬Path.IsDottedName "" := fun dotted =>
      List.cons_ne_nil "" [] ((Path.tail_segments_eq_empty_iff "").2 dotted).symm
    have atEmpty : document.toValue.follow? (Path.segments "") = document.toValue.child? "" :=
      Option.bind_fun_some _
    rw [atEmpty]
    simp [undotted]
  · rw [← document.toValue.get?_of_nonempty empty]
    simp [empty]

/-- A field with the empty name is read by the value and taken out by a removal, and the document
does not find it. -/
theorem readings_disagree_at_empty_name :
    let document : Document := ⟨[("", .null), ("a", .object [("", .bool true)])]⟩
    document.get? "a." = none ∧ document.toValue.get? "a." = some (.bool true) ∧
      document.remove "a." = (some (.bool true), ⟨[("", .null), ("a", .object [])]⟩) ∧
      document.get? "" = none ∧
      document.remove "" = (some .null, ⟨[("a", .object [("", .bool true)])]⟩) := by
  exact ⟨rfl, rfl, rfl, rfl, rfl⟩

end Document

end DocStore
