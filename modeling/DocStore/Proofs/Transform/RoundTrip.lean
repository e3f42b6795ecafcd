import DocStore.Proofs.Predicate.RoundTrip
import DocStore.Transform.Json

/-!
Contract: transforms are read back as they were written.

A tag stands beside the fields of its choice and is taken off before they are
read. A transform without a guard has no member for one, and the data of a guard
is never null, so both ways of having none are told from having one.

Owns: equality, literals and normal form of transforms, and their round trip.
-/

namespace DocStore

theorem Fold.names : Json.Names Fold.all Fold.name where
  listed := by
    intro fold
    cases fold <;> decide
  distinct := by decide

theorem ArrayOperation.names : Json.Names ArrayOperation.all ArrayOperation.name where
  listed := by
    intro operation
    cases operation with
    | fold fold => exact List.mem_append_left _ (List.mem_map_of_mem (Fold.names.listed fold))
    | concat => decide
  distinct := by decide

theorem Measure.names : Json.Names Measure.all Measure.name where
  listed := by
    intro measure
    cases measure <;> decide
  distinct := by decide

theorem CastTarget.names : Json.Names CastTarget.all CastTarget.name where
  listed := by
    intro target
    cases target <;> decide
  distinct := by decide

/-! ## Computations -/

namespace Computation

theorem Tag.names : Json.Names Tag.all Tag.name where
  listed := by
    intro tag
    cases tag <;> decide
  distinct := by decide

/-- Equality of computations, with numeric equality inside operands. -/
def equals : Computation → Computation → Bool
  | array leftOperation left, array rightOperation right =>
      leftOperation == rightOperation && Value.itemsEqual left right
  | single leftMeasure left, single rightMeasure right =>
      leftMeasure == rightMeasure && left == right
  | cast left leftTarget, cast right rightTarget => left == right && leftTarget == rightTarget
  | _, _ => false

/-- The operands that are values rather than names of fields. -/
def literals : Computation → List Value
  | array _ operands => operands
  | single _ _ | cast _ _ => []

/-- Every operand of a computation is finite. -/
def HasFiniteLiterals (computation : Computation) : Prop :=
  ∀ literal ∈ computation.literals, literal.isFinite = true

def normalised : Computation → Computation
  | array operation operands => array operation (Value.itemsNormalised operands)
  | other => other

theorem equals_normalised {computation : Computation} (finite : computation.HasFiniteLiterals) :
    computation.normalised.equals computation = true := by
  cases computation with
  | array operation operands =>
      rw [normalised, equals, beq_self_eq_true, Bool.true_and]
      exact (Value.itemsEqual_itemsNormalised operands).trans
        ((Value.itemsFinite_iff operands).2 finite)
  | single measure field => simp [normalised, equals]
  | cast field target => simp [normalised, equals]

/-- A computation is read back in its normal form. -/
theorem ofJson?_toJson (nested : Bool) (computation : Computation) :
    ofJson? nested computation.toJson = some computation.normalised := by
  cases computation with
  | array operation operands =>
      have tagged : (toJson (array operation operands)).tagged? =
          some (.string Tag.array.name, .object
            [("operands", .array (Value.itemsToJson operands)),
              ("operation", .string operation.name)]) := by
        simp [toJson, Json.tagged?, Entries.find?, Entries.erase]
      simp only [ofJson?, tagged, Option.bind_eq_bind, Option.bind_some, Tag.names.tag?]
      simp [Json.record?, Entries.find?, option?, ArrayOperation.names.plainChoice?, Json.items,
        Value.itemsOfJson_itemsToJson, normalised]
  | single measure field =>
      have tagged : (toJson (single measure field)).tagged? =
          some (.string Tag.single.name, .object
            [("field", .string field), ("operation", .string measure.name)]) := by
        simp [toJson, Json.tagged?, Entries.find?, Entries.erase]
      simp only [ofJson?, tagged, Option.bind_eq_bind, Option.bind_some, Tag.names.tag?]
      simp [Json.record?, Entries.find?, option?, Measure.names.plainChoice?, Json.string?,
        normalised]
  | cast field target =>
      have tagged : (toJson (cast field target)).tagged? =
          some (.string Tag.cast.name, .object
            [("field", .string field), ("target", .string target.name)]) := by
        simp [toJson, Json.tagged?, Entries.find?, Entries.erase]
      simp only [ofJson?, tagged, Option.bind_eq_bind, Option.bind_some, Tag.names.tag?]
      simp [Json.record?, Entries.find?, option?, CastTarget.names.plainChoice?, Json.string?,
        normalised]

theorem hasFiniteLiterals_of_ofJson? {nested : Bool} {json : Json} {computation : Computation}
    (faithful : json.isFaithful = true) (read : ofJson? nested json = some computation) :
    computation.HasFiniteLiterals := by
  simp only [ofJson?, Option.bind_eq_bind, Option.bind_eq_some_iff] at read
  rcases read with ⟨⟨tag, body⟩, isTagged, choice, -, read⟩
  have bodyFaithful := (Json.isFaithful_of_tagged? faithful isTagged).2
  cases choice with
  | array =>
      simp only [Option.bind_eq_some_iff] at read
      rcases read with ⟨fields, isRecord, read⟩
      split at read
      next operation operands =>
        simp only [Option.bind_eq_some_iff] at read
        rcases read with ⟨_, _, items, ⟨data, isData, areItems⟩, same⟩
        have dataFaithful : data.isFaithful = true := by
          apply Json.isFaithful_of_record? bodyFaithful isRecord
          rw [isData]
          simp
        have itemsFaithful := Json.isFaithful_of_items dataFaithful areItems
        rw [← Option.some.inj same]
        exact (Value.itemsFinite_iff _).1
          (Value.itemsFinite_itemsOfJson items ((Json.itemsFaithful_iff items).2 itemsFaithful))
      next => cases read
  | single =>
      simp only [Option.bind_eq_some_iff] at read
      rcases read with ⟨fields, isRecord, read⟩
      split at read
      next =>
        simp only [Option.bind_eq_some_iff] at read
        rcases read with ⟨_, _, _, _, same⟩
        rw [← Option.some.inj same]
        exact fun literal member => absurd member List.not_mem_nil
      next => cases read
  | cast =>
      simp only [Option.bind_eq_some_iff] at read
      rcases read with ⟨fields, isRecord, read⟩
      split at read
      next =>
        simp only [Option.bind_eq_some_iff] at read
        rcases read with ⟨_, _, _, _, same⟩
        rw [← Option.some.inj same]
        exact fun literal member => absurd member List.not_mem_nil
      next => cases read

end Computation

/-! ## Transforms -/

namespace Transform

theorem Tag.names : Json.Names Tag.all Tag.name where
  listed := by
    intro tag
    cases tag <;> decide
  distinct := by decide

def guardsEqual : Option Predicate → Option Predicate → Bool
  | none, none => true
  | some left, some right => left.equals right
  | _, _ => false

/-- Equality of transforms, with numeric equality inside literals. -/
def equals : Transform → Transform → Bool
  | addField leftName leftGuard left, addField rightName rightGuard right =>
      leftName == rightName && guardsEqual leftGuard rightGuard && left.equals right
  | removeField leftName leftGuard, removeField rightName rightGuard =>
      leftName == rightName && guardsEqual leftGuard rightGuard
  | _, _ => false

def guardLiterals : Option Predicate → List Value
  | none => []
  | some predicate => predicate.literals

/-- The literals of the guard and of the computation. -/
def literals : Transform → List Value
  | addField _ guard computation => guardLiterals guard ++ computation.literals
  | removeField _ guard => guardLiterals guard

/-- Every literal of a transform is finite. -/
def HasFiniteLiterals (transform : Transform) : Prop :=
  ∀ literal ∈ transform.literals, literal.isFinite = true

def normalised : Transform → Transform
  | addField name guard computation =>
      addField name (guard.map Predicate.normalised) computation.normalised
  | removeField name guard => removeField name (guard.map Predicate.normalised)

theorem guardsEqual_normalised {guard : Option Predicate}
    (finite : ∀ literal ∈ guardLiterals guard, literal.isFinite = true) :
    guardsEqual (guard.map Predicate.normalised) guard = true := by
  cases guard with
  | none => rfl
  | some predicate => exact Predicate.equals_normalised predicate finite

theorem equals_normalised {transform : Transform} (finite : transform.HasFiniteLiterals) :
    transform.normalised.equals transform = true := by
  unfold HasFiniteLiterals at finite
  cases transform with
  | addField name guard computation =>
      rw [literals, List.forall_mem_append] at finite
      rw [normalised, equals, beq_self_eq_true, guardsEqual_normalised finite.1,
        Computation.equals_normalised finite.2]
      rfl
  | removeField name guard =>
      rw [literals] at finite
      rw [normalised, equals, beq_self_eq_true, guardsEqual_normalised finite]
      rfl

/-! ## Reading what was written -/

theorem guardOfJson?_map (guard : Option Predicate) :
    guardOfJson? (guard.map Predicate.toJson) = some (guard.map Predicate.normalised) := by
  cases guard with
  | none => rfl
  | some predicate =>
      have read := Predicate.ofJson?_toJson predicate
      cases predicate with
      | test leaf =>
          rw [Predicate.toJson, FieldTest.toJson] at read
          rw [Option.map_some, Predicate.toJson, FieldTest.toJson]
          simp only [guardOfJson?, read, Option.map_some]
      | join connective operands =>
          rw [Predicate.toJson] at read
          rw [Option.map_some, Predicate.toJson]
          simp only [guardOfJson?, read, Option.map_some]

/-- A transform is read back in its normal form. -/
theorem ofJson?_toJson (nested : Bool) (transform : Transform) :
    ofJson? nested transform.toJson = some transform.normalised := by
  cases transform with
  | addField name guard computation =>
      have tagged : (toJson (addField name guard computation)).tagged? =
          some (.string Tag.addField.name, .object (guardMember guard ++
            [("name", .string name), ("operation", computation.toJson)])) := by
        cases guard <;> simp [toJson, guardMember, Json.tagged?, Entries.find?, Entries.erase]
      have fields : (Json.object (guardMember guard ++
          [("name", .string name), ("operation", computation.toJson)])).record?
            ["name", "guard", "operation"] =
          some [some (.string name), guard.map Predicate.toJson, some computation.toJson] := by
        cases guard <;> simp [guardMember, Json.record?, Entries.find?]
      simp only [ofJson?, tagged, Option.bind_eq_bind, Option.bind_some, Tag.names.tag?, fields,
        Json.string?, guardOfJson?_map, Computation.ofJson?_toJson, normalised]
  | removeField name guard =>
      have tagged : (toJson (removeField name guard)).tagged? =
          some (.string Tag.removeField.name, .object (guardMember guard ++
            [("name", .string name)])) := by
        cases guard <;> simp [toJson, guardMember, Json.tagged?, Entries.find?, Entries.erase]
      have fields : (Json.object (guardMember guard ++ [("name", .string name)])).record?
            ["name", "guard"] =
          some [some (.string name), guard.map Predicate.toJson] := by
        cases guard <;> simp [guardMember, Json.record?, Entries.find?]
      simp only [ofJson?, tagged, Option.bind_eq_bind, Option.bind_some, Tag.names.tag?, fields,
        Json.string?, guardOfJson?_map, normalised]

/-! ## Literals that were read -/

theorem finite_of_guardOfJson? {json : Option Json} {guard : Option Predicate}
    (faithful : ∀ found, json = some found → found.isFaithful = true)
    (read : guardOfJson? json = some guard) :
    ∀ literal ∈ guardLiterals guard, literal.isFinite = true := by
  unfold guardOfJson? at read
  split at read
  next =>
    rw [← Option.some.inj read]
    exact fun literal member => absurd member List.not_mem_nil
  next =>
    rw [← Option.some.inj read]
    exact fun literal member => absurd member List.not_mem_nil
  next found _ =>
    rw [Option.map_eq_some_iff] at read
    rcases read with ⟨predicate, isPredicate, same⟩
    rw [← same]
    exact Predicate.hasFiniteLiterals_of_ofJson? found (faithful found rfl) isPredicate

/-- Whatever is read from faithful data has finite literals. -/
theorem hasFiniteLiterals_of_ofJson? {nested : Bool} {json : Json} {transform : Transform}
    (faithful : json.isFaithful = true) (read : ofJson? nested json = some transform) :
    transform.HasFiniteLiterals := by
  simp only [ofJson?, Option.bind_eq_bind, Option.bind_eq_some_iff] at read
  rcases read with ⟨⟨tag, body⟩, isTagged, choice, -, read⟩
  have bodyFaithful := (Json.isFaithful_of_tagged? faithful isTagged).2
  cases choice with
  | addField =>
      simp only [Option.bind_eq_some_iff] at read
      rcases read with ⟨fields, isRecord, read⟩
      have fieldsFaithful := Json.isFaithful_of_record? bodyFaithful isRecord
      split at read
      next name guard operation =>
        simp only [Option.bind_eq_some_iff] at read
        rcases read with ⟨_, _, guard, isGuard, computation, ⟨data, isData, isComputation⟩, same⟩
        rw [← Option.some.inj same]
        unfold HasFiniteLiterals
        rw [literals, List.forall_mem_append]
        constructor
        · apply finite_of_guardOfJson? _ isGuard
          intro found isFound
          apply fieldsFaithful
          rw [isFound]
          simp
        · apply Computation.hasFiniteLiterals_of_ofJson? _ isComputation
          apply fieldsFaithful
          rw [isData]
          simp
      next => cases read
  | removeField =>
      simp only [Option.bind_eq_some_iff] at read
      rcases read with ⟨fields, isRecord, read⟩
      have fieldsFaithful := Json.isFaithful_of_record? bodyFaithful isRecord
      split at read
      next name guard =>
        simp only [Option.bind_eq_some_iff] at read
        rcases read with ⟨_, _, guard, isGuard, same⟩
        rw [← Option.some.inj same]
        apply finite_of_guardOfJson? _ isGuard
        intro found isFound
        apply fieldsFaithful
        rw [isFound]
        simp
      next => cases read

end Transform

end DocStore
