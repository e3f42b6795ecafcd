import DocStore.Proofs.Json.Numerals
import DocStore.Proofs.SortedMap.Reading

/-!
Contract: what a reader makes of a text.

Values, items and members are read together, with fuel for the steps and with
the number of containers that may still be opened. What holds of data without
contents, and of a container whenever it holds one level lower of its contents,
holds of all that is read; numbers come from literals, so only those that a
literal can denote count here. A reader that may open more containers still
reads all that it read before.

Owns: `Json.isLiteral`, `Json.Inherited` and the two inductions over the reader.
-/

namespace DocStore.Json

/-- Whether data has no contents and, if it is a number, is one that a literal can denote. -/
def isLiteral : Json → Bool
  | integer value => isWordSized value
  | decimal value => value.isFinite
  | array _ | object _ => false
  | _ => true

/-! ## Numbers -/

theorem isLiteral_of_finite? {number : Number} {json : Json}
    (read : ofIntegerLiteral?.finite? number = some json) : json.isLiteral = true := by
  unfold ofIntegerLiteral?.finite? at read
  split at read
  next isFinite =>
    rw [← Option.some.inj read, isLiteral]
    exact isFinite
  next => cases read

variable [NumeralReader]

theorem isLiteral_of_ofIntegerLiteral? {negative : Bool} {digits : List Char} {json : Json}
    (read : ofIntegerLiteral? negative digits = some json) : json.isLiteral = true := by
  simp only [ofIntegerLiteral?, Nat.pow_eq] at read
  generalize Nat.ofDigitChars 10 digits 0 = size at read
  split at read
  · split at read
    next sized =>
      rw [← Option.some.inj read, isLiteral]
      exact decide_eq_true (by omega)
    next => exact isLiteral_of_finite? read
  · split at read
    next sized =>
      rw [← Option.some.inj read, isLiteral]
      exact decide_eq_true (by omega)
    next => exact isLiteral_of_finite? read

theorem isLiteral_of_unsigned? {negative : Bool} {input rest : List Char} {json : Json}
    (read : unsigned? negative input = some (json, rest)) : json.isLiteral = true := by
  simp only [unsigned?] at read
  split at read
  · cases read
  · simp only [Option.bind_eq_bind, Option.bind_eq_some_iff] at read
    rcases read with ⟨_, _, _, _, read⟩
    split at read
    · simp only [Option.bind_eq_some_iff] at read
      rcases read with ⟨_, literal, same⟩
      cases same
      exact isLiteral_of_ofIntegerLiteral? literal
    · split at read
      next isFinite =>
        cases read
        exact isFinite
      next => cases read

theorem isLiteral_of_number? {input rest : List Char} {json : Json}
    (read : number? input = some (json, rest)) : json.isLiteral = true := by
  unfold number? at read
  split at read
  · exact isLiteral_of_unsigned? read
  · exact isLiteral_of_unsigned? read

/-! ## What holds of all that is read -/

/-- What passes to a container from its contents, which have one level less to themselves. -/
structure Inherited (good : Nat → Json → Prop) : Prop where
  literal : ∀ levels json, json.isLiteral = true → good levels json
  array : ∀ levels items, (∀ item ∈ items, good levels item) → good (levels + 1) (.array items)
  object : ∀ levels members, Entries.Sorted members →
    (∀ member ∈ members, good levels member.2) → good (levels + 1) (.object members)

/-- Whether something holds of all that a reader makes with its levels. -/
def Gives {Result : Type} (good : Nat → Result → Prop)
    (read : Nat → List Char → Option (Result × List Char)) : Prop :=
  ∀ levels input result rest, read levels input = some (result, rest) → good levels result

namespace Inherited

variable {good : Nat → Json → Prop} {fuel : Nat}

theorem gives_value (inherited : Inherited good)
    (items : Gives (fun levels items => ∀ item ∈ items, good levels item) (items? fuel))
    (members : Gives (fun levels members => ∀ member ∈ members, good levels member.2)
      (members? fuel)) : Gives good (value? (fuel + 1)) := by
  intro levels input json rest read
  simp only [value?] at read
  split at read
  · cases read
    exact inherited.literal levels _ rfl
  · cases read
    exact inherited.literal levels _ rfl
  · cases read
    exact inherited.literal levels _ rfl
  · simp only [Option.bind_eq_bind, Option.bind_eq_some_iff] at read
    rcases read with ⟨_, _, same⟩
    cases same
    exact inherited.literal levels _ rfl
  · split at read
    · cases read
    · split at read
      · cases read
        exact inherited.array _ [] fun item member => absurd member List.not_mem_nil
      · simp only [Option.bind_eq_bind, Option.bind_eq_some_iff] at read
        rcases read with ⟨_, readItems, same⟩
        cases same
        exact inherited.array _ _ (items _ _ _ _ readItems)
  · split at read
    · cases read
    · split at read
      · cases read
        exact inherited.object _ [] Entries.sorted_nil fun member inside =>
          absurd inside List.not_mem_nil
      · simp only [Option.bind_eq_bind, Option.bind_eq_some_iff] at read
        rcases read with ⟨_, readMembers, same⟩
        cases same
        apply inherited.object _ _ (Entries.Sorted.ofList _)
        exact fun member inside =>
          members _ _ _ _ readMembers member (Entries.mem_of_mem_ofList inside)
  · exact inherited.literal levels json (isLiteral_of_number? read)

theorem gives_items (value : Gives good (value? fuel))
    (items : Gives (fun levels items => ∀ item ∈ items, good levels item) (items? fuel)) :
    Gives (fun levels items => ∀ item ∈ items, good levels item) (items? (fuel + 1)) := by
  intro levels input found rest read
  simp only [items?, Option.bind_eq_bind, Option.bind_eq_some_iff] at read
  rcases read with ⟨⟨item, afterItem⟩, readItem, read⟩
  have itemGood := value _ _ _ _ readItem
  split at read
  · simp only [Option.bind_eq_some_iff] at read
    rcases read with ⟨_, readRest, same⟩
    cases same
    exact List.forall_mem_cons.2 ⟨itemGood, items _ _ _ _ readRest⟩
  · cases read
    exact List.forall_mem_singleton.2 itemGood
  · cases read

theorem gives_members (value : Gives good (value? fuel))
    (members : Gives (fun levels members => ∀ member ∈ members, good levels member.2)
      (members? fuel)) :
    Gives (fun levels members => ∀ member ∈ members, good levels member.2)
      (members? (fuel + 1)) := by
  intro levels input found rest read
  simp only [members?] at read
  split at read
  · simp only [Option.bind_eq_bind, Option.bind_eq_some_iff] at read
    rcases read with ⟨_, _, read⟩
    split at read
    · simp only [Option.bind_eq_some_iff] at read
      rcases read with ⟨⟨item, afterItem⟩, readItem, read⟩
      have itemGood := value _ _ _ _ readItem
      split at read
      · simp only [Option.bind_eq_some_iff] at read
        rcases read with ⟨_, readRest, same⟩
        cases same
        exact List.forall_mem_cons.2 ⟨itemGood, members _ _ _ _ readRest⟩
      · cases read
        exact List.forall_mem_singleton.2 itemGood
      · cases read
    · cases read
  · cases read

/-- The readers call each other, so the induction is on the fuel for all three. -/
theorem gives (inherited : Inherited good) (fuel : Nat) :
    Gives good (value? fuel) ∧
      Gives (fun levels items => ∀ item ∈ items, good levels item) (items? fuel) ∧
      Gives (fun levels members => ∀ member ∈ members, good levels member.2) (members? fuel) := by
  induction fuel with
  | zero =>
      refine ⟨?_, ?_, ?_⟩
      · intro levels input json rest read
        simp [value?] at read
      · intro levels input items rest read
        simp [items?] at read
      · intro levels input members rest read
        simp [members?] at read
  | succ fuel inductionHypothesis =>
      rcases inductionHypothesis with ⟨value, items, members⟩
      exact ⟨inherited.gives_value items members, gives_items value items,
        gives_members value members⟩

/-- What is inherited holds of whatever is read from a text. -/
theorem of_parse? (inherited : Inherited good) {text : String} {json : Json}
    (read : parse? text = some json) : good nestingLimit json := by
  simp only [parse?, parseWithin?, Option.bind_eq_bind, Option.bind_eq_some_iff] at read
  rcases read with ⟨⟨found, rest⟩, readValue, read⟩
  split at read
  · cases read
    exact (inherited.gives _).1 _ _ _ _ readValue
  · cases read

end Inherited

/-! ## More levels -/

/-- Whether a reader that is allowed more levels reads all that it read before. -/
def Grows {Result : Type} (read : Nat → List Char → Option Result) : Prop :=
  ∀ levels more input result, levels ≤ more → read levels input = some result →
    read more input = some result

theorem grows_value {fuel : Nat} (items : Grows (items? fuel)) (members : Grows (members? fuel)) :
    Grows (value? (fuel + 1)) := by
  intro levels more input result enough read
  simp only [value?] at read ⊢
  generalize skipGap input = skipped at read ⊢
  split at read
  · exact read
  · exact read
  · exact read
  · exact read
  · cases levels with
    | zero => cases read
    | succ inner =>
        cases more with
        | zero => exact absurd enough (Nat.not_succ_le_zero inner)
        | succ outer =>
            simp only at read ⊢
            split at read
            · exact read
            · simp only [Option.bind_eq_bind, Option.bind_eq_some_iff] at read
              rcases read with ⟨found, readItems, same⟩
              rw [items _ outer _ _ (Nat.le_of_succ_le_succ enough) readItems]
              exact same
  · cases levels with
    | zero => cases read
    | succ inner =>
        cases more with
        | zero => exact absurd enough (Nat.not_succ_le_zero inner)
        | succ outer =>
            simp only at read ⊢
            split at read
            · exact read
            · simp only [Option.bind_eq_bind, Option.bind_eq_some_iff] at read
              rcases read with ⟨found, readMembers, same⟩
              rw [members _ outer _ _ (Nat.le_of_succ_le_succ enough) readMembers]
              exact same
  · exact read

theorem grows_items {fuel : Nat} (value : Grows (value? fuel)) (items : Grows (items? fuel)) :
    Grows (items? (fuel + 1)) := by
  intro levels more input result enough read
  simp only [items?, Option.bind_eq_bind, Option.bind_eq_some_iff] at read
  rcases read with ⟨⟨item, afterItem⟩, readItem, read⟩
  simp only [items?, Option.bind_eq_bind, value _ _ _ _ enough readItem, Option.bind_some]
  generalize skipGap afterItem = skipped at read ⊢
  split at read
  · simp only [Option.bind_eq_some_iff] at read
    rcases read with ⟨found, readRest, same⟩
    simp only [items _ _ _ _ enough readRest, Option.bind_some]
    exact same
  · exact read
  · cases read

theorem grows_members {fuel : Nat} (value : Grows (value? fuel))
    (members : Grows (members? fuel)) : Grows (members? (fuel + 1)) := by
  intro levels more input result enough read
  simp only [members?] at read ⊢
  generalize skipGap input = skipped at read ⊢
  split at read
  · simp only [Option.bind_eq_bind, Option.bind_eq_some_iff] at read
    rcases read with ⟨⟨characters, afterKey⟩, isKey, read⟩
    simp only [isKey, Option.bind_eq_bind, Option.bind_some]
    generalize skipGap afterKey = skipped at read ⊢
    split at read
    · simp only [Option.bind_eq_some_iff] at read
      rcases read with ⟨⟨item, afterItem⟩, readItem, read⟩
      simp only [value _ _ _ _ enough readItem, Option.bind_some]
      generalize skipGap afterItem = skipped at read ⊢
      split at read
      · simp only [Option.bind_eq_some_iff] at read
        rcases read with ⟨found, readRest, same⟩
        simp only [members _ _ _ _ enough readRest, Option.bind_some]
        exact same
      · exact read
      · cases read
    · cases read
  · cases read

theorem grows (fuel : Nat) : Grows (value? fuel) ∧ Grows (items? fuel) ∧ Grows (members? fuel) := by
  induction fuel with
  | zero =>
      refine ⟨?_, ?_, ?_⟩
      · intro levels more input result _ read
        simp [value?] at read
      · intro levels more input result _ read
        simp [items?] at read
      · intro levels more input result _ read
        simp [members?] at read
  | succ fuel inductionHypothesis =>
      rcases inductionHypothesis with ⟨value, items, members⟩
      exact ⟨grows_value items members, grows_items value items, grows_members value members⟩

/-- A text that is read within some levels is read alike within more. -/
theorem parseWithin?_of_le {levels more : Nat} {text : String} {json : Json}
    (enough : levels ≤ more) (read : parseWithin? levels text = some json) :
    parseWithin? more text = some json := by
  simp only [parseWithin?, Option.bind_eq_bind, Option.bind_eq_some_iff] at read ⊢
  rcases read with ⟨found, readValue, isFound⟩
  exact ⟨found, (grows _).1 _ _ _ _ enough readValue, isFound⟩

end DocStore.Json
