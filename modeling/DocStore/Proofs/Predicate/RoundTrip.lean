import DocStore.Predicate.Json
import DocStore.Proofs.Json.Decoding
import DocStore.Proofs.Value.Equality

/-!
Contract: predicates are read back as they were written.

A leaf is read back as a leaf and a node as a node, at every depth: the data of
a node has none of the fields of a leaf, and the leaf is tried first. Only
literals may differ, by what JSON cannot say, so a predicate with finite literals
is read back equal. A predicate that was read from data has no others.

Owns: equality, literals and normal form of predicates, and their round trip.
-/

namespace DocStore

theorem Comparison.names : Json.Names Comparison.all Comparison.name where
  listed := by
    intro comparison
    cases comparison <;> decide
  distinct := by decide

theorem Connective.names : Json.Names Connective.all Connective.name where
  listed := by
    intro connective
    cases connective <;> decide
  distinct := by decide

/-! ## Leaves -/

namespace FieldTest

/-- Equality of tests, with numeric equality inside literals. -/
def equals (left right : FieldTest) : Bool :=
  left.field == right.field && left.comparison == right.comparison &&
    left.literal.equals right.literal

/-- The test against the normal form of its literal. -/
def normalised (test : FieldTest) : FieldTest := { test with literal := test.literal.normalised }

theorem equals_normalised {test : FieldTest} (finite : test.literal.isFinite = true) :
    test.normalised.equals test = true := by
  unfold equals normalised
  simp only [beq_self_eq_true, Bool.true_and]
  exact Value.equals_normalised test.literal finite

theorem ofJson?_toJson (test : FieldTest) : ofJson? test.toJson = some test.normalised := by
  have fields : test.toJson.record? ["field", "operatorType", "value"] =
      some [some (.string test.field), some (.string test.comparison.name),
        some test.literal.toJson] := by
    simp [toJson, Json.record?, Entries.find?]
  unfold ofJson?
  rw [fields]
  simp only [Option.bind_eq_bind, Option.bind_some, Json.string?, Comparison.names.plainChoice?,
    Value.ofJson_toJson]
  rfl

theorem isFinite_of_ofJson? {json : Json} {test : FieldTest} (faithful : json.isFaithful = true)
    (read : ofJson? json = some test) : test.literal.isFinite = true := by
  unfold ofJson? at read
  simp only [Option.bind_eq_bind, Option.bind_eq_some_iff] at read
  rcases read with ⟨fields, isRecord, read⟩
  split at read
  next field comparison literal =>
    simp only [Option.bind_eq_some_iff] at read
    rcases read with ⟨_, _, _, _, found, isLiteral, same⟩
    rw [← Option.some.inj same]
    apply Value.isFinite_ofJson
    apply Json.isFaithful_of_record? faithful isRecord
    rw [isLiteral]
    simp
  next => cases read

end FieldTest

/-! ## Trees -/

namespace Predicate

mutual

/-- Equality of predicates, with numeric equality inside literals. -/
def equals : Predicate → Predicate → Bool
  | test left, test right => left.equals right
  | join leftConnective left, join rightConnective right =>
      leftConnective == rightConnective && operandsEqual left right
  | _, _ => false

def operandsEqual : List Predicate → List Predicate → Bool
  | [], [] => true
  | left :: leftRest, right :: rightRest => left.equals right && operandsEqual leftRest rightRest
  | _, _ => false

end

mutual

/-- The literals that a predicate compares with. -/
def literals : Predicate → List Value
  | test leaf => [leaf.literal]
  | join _ operands => operandsLiterals operands

def operandsLiterals : List Predicate → List Value
  | [] => []
  | operand :: rest => operand.literals ++ operandsLiterals rest

end

/-- Every literal of a predicate is finite. -/
def HasFiniteLiterals (predicate : Predicate) : Prop :=
  ∀ literal ∈ predicate.literals, literal.isFinite = true

theorem hasFiniteLiterals_test_iff (leaf : FieldTest) :
    (test leaf).HasFiniteLiterals ↔ leaf.literal.isFinite = true := by
  unfold HasFiniteLiterals
  rw [literals, List.forall_mem_singleton]

theorem hasFiniteLiterals_join_iff (connective : Connective) (operands : List Predicate) :
    (join connective operands).HasFiniteLiterals ↔
      ∀ literal ∈ operandsLiterals operands, literal.isFinite = true := by
  unfold HasFiniteLiterals
  rw [literals]

mutual

/-- The predicate with all its literals in normal form. -/
def normalised : Predicate → Predicate
  | test leaf => test leaf.normalised
  | join connective operands => join connective (operandsNormalised operands)

def operandsNormalised : List Predicate → List Predicate
  | [] => []
  | operand :: rest => operand.normalised :: operandsNormalised rest

end

mutual

/-- A predicate with finite literals equals its normal form. -/
theorem equals_normalised : ∀ predicate : Predicate, predicate.HasFiniteLiterals →
    predicate.normalised.equals predicate = true
  | test leaf, finite => by
      rw [hasFiniteLiterals_test_iff] at finite
      rw [normalised, equals]
      exact FieldTest.equals_normalised finite
  | join connective operands, finite => by
      rw [hasFiniteLiterals_join_iff] at finite
      rw [normalised, equals, beq_self_eq_true, operandsEqual_operandsNormalised operands finite]
      rfl

theorem operandsEqual_operandsNormalised : ∀ operands : List Predicate,
    (∀ literal ∈ operandsLiterals operands, literal.isFinite = true) →
      operandsEqual (operandsNormalised operands) operands = true
  | [], _ => rfl
  | operand :: rest, finite => by
      rw [operandsLiterals, List.forall_mem_append] at finite
      rw [operandsNormalised, operandsEqual, equals_normalised operand finite.1,
        operandsEqual_operandsNormalised rest finite.2]
      rfl

end

mutual

/-- Whether two predicates have leaves and nodes in the same places, and the same connectives. -/
def isShapedLike : Predicate → Predicate → Bool
  | test _, test _ => true
  | join leftConnective left, join rightConnective right =>
      leftConnective == rightConnective && operandsShapedLike left right
  | _, _ => false

def operandsShapedLike : List Predicate → List Predicate → Bool
  | [], [] => true
  | left :: leftRest, right :: rightRest =>
      left.isShapedLike right && operandsShapedLike leftRest rightRest
  | _, _ => false

end

mutual

/-- Leaves stay leaves and nodes stay nodes, whatever the literals are. -/
theorem isShapedLike_normalised : ∀ predicate : Predicate,
    predicate.normalised.isShapedLike predicate = true
  | test leaf => rfl
  | join connective operands => by
      rw [normalised, isShapedLike, beq_self_eq_true, operandsShapedLike_normalised operands]
      rfl

theorem operandsShapedLike_normalised : ∀ operands : List Predicate,
    operandsShapedLike (operandsNormalised operands) operands = true
  | [] => rfl
  | operand :: rest => by
      rw [operandsNormalised, operandsShapedLike, isShapedLike_normalised operand,
        operandsShapedLike_normalised rest]
      rfl

end

/-! ## Reading what was written -/

theorem ofJson?_leaf (leaf : FieldTest) :
    ofJson? leaf.toJson = some (test leaf.normalised) := by
  have read := FieldTest.ofJson?_toJson leaf
  unfold FieldTest.toJson at read ⊢
  rw [ofJson?, read]

/-- The data of a node is not that of a leaf. -/
theorem ofJson?_node (connective : Connective) (data : Json) :
    ofJson? (.object [("conjunctionType", .string connective.name), ("operators", data)]) =
      (operands? data).map (join connective) := by
  have noLeaf : FieldTest.ofJson? (.object [("conjunctionType", .string connective.name),
      ("operators", data)]) = none := by
    simp [FieldTest.ofJson?, Json.record?, Entries.find?]
  have isConnective : connectiveOf? (.string connective.name) = some connective :=
    Connective.names.plainChoice? .nullOnly connective
  have isData : memberOperands? [("conjunctionType", .string connective.name),
      ("operators", data)] = operands? data := by
    simp [memberOperands?]
  rw [ofJson?, noLeaf, isData]
  simp only [Entries.find?, Std.ReflCmp.compare_self, reduceIte, Option.bind_eq_bind,
    Option.bind_some, isConnective]
  cases operands? data with
  | none => rfl
  | some operands => rfl

mutual

/-- A predicate is read back in its normal form. -/
theorem ofJson?_toJson : ∀ predicate : Predicate,
    ofJson? predicate.toJson = some predicate.normalised
  | test leaf => by
      rw [toJson, normalised]
      exact ofJson?_leaf leaf
  | join connective operands => by
      rw [toJson, ofJson?_node, operands?, eachOperand?_operandsToJson operands, normalised]
      rfl

theorem eachOperand?_operandsToJson : ∀ operands : List Predicate,
    eachOperand? (operandsToJson operands) = some (operandsNormalised operands)
  | [] => by
      rw [operandsToJson, eachOperand?, operandsNormalised]
  | operand :: rest => by
      rw [operandsToJson, eachOperand?, ofJson?_toJson operand, eachOperand?_operandsToJson rest,
        operandsNormalised]
      rfl

end

theorem decode_toJson_eq (predicate : Predicate) :
    decode predicate.toJson = .ok predicate.normalised := by
  rw [decode, ofJson?_toJson]

theorem decode_eq_ok_iff (json : Json) (predicate : Predicate) :
    decode json = .ok predicate ↔ ofJson? json = some predicate := by
  unfold decode
  cases ofJson? json with
  | none => simp
  | some found => simp

/-! ## Literals that were read -/

mutual

/-- Whatever is read from faithful data has finite literals. -/
theorem hasFiniteLiterals_of_ofJson? : ∀ (json : Json) {predicate : Predicate},
    json.isFaithful = true → ofJson? json = some predicate → predicate.HasFiniteLiterals
  | .object members, predicate, faithful, read => by
      rw [ofJson?] at read
      split at read
      next leaf isLeaf =>
        rw [← Option.some.inj read]
        exact (hasFiniteLiterals_test_iff leaf).2 (FieldTest.isFinite_of_ofJson? faithful isLeaf)
      next =>
        simp only [Option.bind_eq_bind, Option.bind_eq_some_iff] at read
        rcases read with ⟨connective, -, operands, areOperands, same⟩
        rw [← Option.some.inj same]
        rw [Json.isFaithful, Bool.and_eq_true] at faithful
        exact (hasFiniteLiterals_join_iff ..).2
          (finite_of_memberOperands? members faithful.2 areOperands)
  | .array [connective, data], predicate, faithful, read => by
      rw [Json.isFaithful_array_iff] at faithful
      simp only [ofJson?, Option.bind_eq_bind, Option.bind_eq_some_iff] at read
      rcases read with ⟨connective, -, operands, areOperands, same⟩
      rw [← Option.some.inj same]
      exact (hasFiniteLiterals_join_iff ..).2
        (finite_of_operands? data (faithful data (by simp)) areOperands)
  | .array [], predicate, faithful, read => by
      simp only [ofJson?, Option.map_eq_some_iff] at read
      rcases read with ⟨leaf, isLeaf, same⟩
      rw [← same]
      exact (hasFiniteLiterals_test_iff leaf).2 (FieldTest.isFinite_of_ofJson? faithful isLeaf)
  | .array [_], predicate, faithful, read => by
      simp only [ofJson?, Option.map_eq_some_iff] at read
      rcases read with ⟨leaf, isLeaf, same⟩
      rw [← same]
      exact (hasFiniteLiterals_test_iff leaf).2 (FieldTest.isFinite_of_ofJson? faithful isLeaf)
  | .array (_ :: _ :: _ :: _), predicate, faithful, read => by
      simp only [ofJson?, Option.map_eq_some_iff] at read
      rcases read with ⟨leaf, isLeaf, same⟩
      rw [← same]
      exact (hasFiniteLiterals_test_iff leaf).2 (FieldTest.isFinite_of_ofJson? faithful isLeaf)
  | .null, _, _, read | .bool _, _, _, read | .integer _, _, _, read | .decimal _, _, _, read
  | .string _, _, _, read => by
      simp only [ofJson?] at read
      cases read

theorem finite_of_memberOperands? : ∀ (members : List (String × Json)) {operands : List Predicate},
    Json.membersFaithful members = true → memberOperands? members = some operands →
      ∀ literal ∈ operandsLiterals operands, literal.isFinite = true
  | [], _, _, read => by
      rw [memberOperands?] at read
      cases read
  | (name, item) :: rest, operands, faithful, read => by
      rw [Json.membersFaithful, Bool.and_eq_true] at faithful
      rw [memberOperands?] at read
      split at read
      · exact finite_of_operands? item faithful.1 read
      · exact finite_of_memberOperands? rest faithful.2 read

theorem finite_of_operands? : ∀ (json : Json) {operands : List Predicate},
    json.isFaithful = true → operands? json = some operands →
      ∀ literal ∈ operandsLiterals operands, literal.isFinite = true
  | .array items, operands, faithful, read => by
      rw [operands?] at read
      rw [Json.isFaithful] at faithful
      exact finite_of_eachOperand? items faithful read
  | .null, _, _, read | .bool _, _, _, read | .integer _, _, _, read | .decimal _, _, _, read
  | .string _, _, _, read | .object _, _, _, read => by
      simp only [operands?] at read
      cases read

theorem finite_of_eachOperand? : ∀ (items : List Json) {operands : List Predicate},
    Json.itemsFaithful items = true → eachOperand? items = some operands →
      ∀ literal ∈ operandsLiterals operands, literal.isFinite = true
  | [], operands, _, read => by
      rw [eachOperand?] at read
      rw [← Option.some.inj read, operandsLiterals]
      exact fun literal member => absurd member List.not_mem_nil
  | item :: rest, operands, faithful, read => by
      rw [Json.itemsFaithful, Bool.and_eq_true] at faithful
      simp only [eachOperand?, Option.bind_eq_bind, Option.bind_eq_some_iff] at read
      rcases read with ⟨operand, isOperand, others, areOthers, same⟩
      rw [← Option.some.inj same, operandsLiterals, List.forall_mem_append]
      exact ⟨hasFiniteLiterals_of_ofJson? item faithful.1 isOperand,
        finite_of_eachOperand? rest faithful.2 areOthers⟩

end

end Predicate

end DocStore
