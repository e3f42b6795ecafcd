import DocStore.Proofs.Query.Filtering

/-!
Contract: membership in a list is the disjunction of the equalities with its scalars.

That is how it is compared, how it is looked up in an index, and which documents it
selects, whatever the indexes of the two collections that are asked.

Owns: `Predicate.isMember`, `Predicate.equalsSome`, what comparisons owe each other.
-/

namespace DocStore

/-! ## Look-ups -/

/-- The keys under the members of a list are those under some scalar in it. -/
theorem Index.lookup_isIn (index : Index) (members : List Value) :
    index.lookup .isIn (.array members) =
      Connective.union ((members.filter Value.isScalar).map (index.lookup .equals)) := by
  apply KeySet.ext
  intro key
  rw [Bool.eq_iff_iff, Connective.contains_union_iff, index.finds_lookup .isIn _ key]
  constructor
  · rintro ⟨indexKey, wanted, isListed⟩
    rw [holdsOnKey_array, Bool.and_eq_true, List.any_eq_true] at wanted
    obtain ⟨_, member, isMember, holds⟩ := wanted
    exact ⟨_, List.mem_map_of_mem isMember,
      (index.finds_lookup .equals member key).2 ⟨indexKey, holds, isListed⟩⟩
  · rintro ⟨set, isSet, isHeld⟩
    obtain ⟨member, isMember, rfl⟩ := List.mem_map.1 isSet
    obtain ⟨indexKey, holds, isListed⟩ := (index.finds_lookup .equals member key).1 isHeld
    refine ⟨indexKey, ?_, isListed⟩
    rw [holdsOnKey_array, Bool.and_eq_true, List.any_eq_true]
    exact ⟨rfl, member, isMember, holds⟩

/-! ## Predicates -/

namespace Predicate

/-- The field is in a list. -/
def isMember (field : String) (members : List Value) : Predicate :=
  test ⟨field, .isIn, .array members⟩

/-- The field equals some scalar of a list. -/
def equalsSome (field : String) (members : List Value) : Predicate :=
  join .or ((members.filter Value.isScalar).map fun member => test ⟨field, .equals, member⟩)

theorem verdicts_map_test (document : Document) (leaves : List FieldTest) :
    verdicts document (leaves.map test) = leaves.map fun leaf => leaf.accepts document := by
  induction leaves with
  | nil => rfl
  | cons leaf rest inductionHypothesis =>
      rw [List.map_cons, verdicts, inductionHypothesis]
      rfl

theorem accepts_isMember (document : Document) (field : String) (members : List Value) :
    (isMember field members).accepts document = (equalsSome field members).accepts document := by
  have leaves : ((members.filter Value.isScalar).map fun member =>
      test ⟨field, .equals, member⟩) =
      ((members.filter Value.isScalar).map fun member =>
        (⟨field, .equals, member⟩ : FieldTest)).map test := by
    rw [List.map_map]
    rfl
  rw [equalsSome, leaves, accepts, verdicts_map_test, Connective.verdict_or, List.any_map,
    List.any_map]
  show Comparison.test .isIn document field (.array members) =
    (members.filter Value.isScalar).any fun member =>
      Comparison.test .equals document field member
  unfold Comparison.test
  cases document.get? field with
  | none => simp
  | some found => exact Comparison.holds_array .isIn members found

end Predicate

/-! ## Comparisons -/

namespace Comparison

/-- A comparison that holds has a meaning for the kinds that it holds between. Equality and
inequality exclude each other and one of them holds between two values of one kind that is not the
arrays, though null is never unequal; turning the sides around turns the order around. On numbers
the weak comparisons of order are the strict ones or equality, one of the three relations holds if
no side is NaN, and inequality alone if one is. An array literal matches under `isIn` alone, what
equals some scalar in it; so it is looked up in every index, and it selects the documents that the
equalities select when they are joined by disjunction, from any collection with these documents,
whatever its indexes and the settings. -/
theorem holds_exact :
    (∀ (comparison : Comparison) (literal found : Value),
        comparison.holds literal found = true →
          comparison.isMeaningful literal.kind found.kind = true) ∧
      (∀ literal found : Value,
        (equals.holds literal found && notEquals.holds literal found) = false ∧
          ((equals.holds literal found || notEquals.holds literal found) = true ↔
            literal.kind = found.kind ∧ literal.kind ≠ .array) ∧
          notEquals.holds .null found = false ∧
          greater.holds literal found = smaller.holds found literal) ∧
      (∀ literal found : Number,
        greaterOrEqual.holds (.number literal) (.number found) =
            (greater.holds (.number literal) (.number found) ||
              equals.holds (.number literal) (.number found)) ∧
          smallerOrEqual.holds (.number literal) (.number found) =
            (smaller.holds (.number literal) (.number found) ||
              equals.holds (.number literal) (.number found)) ∧
          (literal.isNaN = false → found.isNaN = false →
            [greater, equals, smaller].countP (fun comparison =>
              comparison.holds (.number literal) (.number found)) = 1) ∧
          (literal.isNaN = true ∨ found.isNaN = true → ∀ comparison : Comparison,
            comparison.holds (.number literal) (.number found) = (comparison == notEquals))) ∧
      (∀ (comparison : Comparison) (members : List Value) (found : Value),
        comparison.holds (.array members) found =
          (comparison == isIn && (members.filter Value.isScalar).any fun member =>
            equals.holds member found)) ∧
      ∀ members : List Value,
        (∀ index : Index, index.lookup .isIn (.array members) =
          Connective.union ((members.filter Value.isScalar).map (index.lookup .equals))) ∧
          (∀ (document : Document) (field : String),
            (Predicate.isMember field members).accepts document =
              (Predicate.equalsSome field members).accepts document) ∧
          ∀ (store other : Store) (settings otherSettings : Settings)
            (database collection field : String), store.Reachable → other.Reachable →
            (other.collection database collection).map Collection.documents =
                (store.collection database collection).map Collection.documents →
              Query.documentsMeeting other.source otherSettings database collection
                  (Predicate.isMember field members) =
                Query.documentsMeeting store.source settings database collection
                  (Predicate.equalsSome field members) := by
  refine ⟨fun _ _ _ => isMeaningful_of_holds, ?_, ?_, holds_array, ?_⟩
  · intro literal found
    refine ⟨equals_and_notEquals literal found, equals_or_notEquals_iff literal found, ?_,
      holds_greater literal found⟩
    cases found <;> rfl
  · intro literal found
    exact ⟨holds_greaterOrEqual literal found, holds_smallerOrEqual literal found,
      countP_holds_eq_one, holds_of_isNaN⟩
  · intro members
    refine ⟨fun index => index.lookup_isIn members,
      fun document field => Predicate.accepts_isMember document field members, ?_⟩
    intro store other settings otherSettings database collection field reachable otherReachable same
    exact Query.documentsMeeting_congr reachable.sound otherReachable.sound same
      (fun document => Predicate.accepts_isMember document field members) settings otherSettings

/-- A text and a zero that the list spells otherwise, NaN, and an array. -/
private def marked : Store :=
  [.insert "d" "c" "k1" { fields := [("mark", .string "Kept")] },
    .insert "d" "c" "k2" { fields := [("mark", .number .zero)] },
    .insert "d" "c" "k3" { fields := [("mark", .number .nan)] },
    .insert "d" "c" "k4" { fields := [("mark", .array [.bool true])] }].foldl Store.after
      Store.empty

private def minusZero : Number := .finite true ⟨0, Number.gridSize_pos⟩

private def marks : List Value :=
  [.array [.bool true], .number .nan, .number minusZero, .string "KEPT"]

/-- The indexed collection is asked for membership, the other one for the equalities. The zeros
stand in one relation, NaN stands in none to itself. -/
theorem holds_exact_spelled_otherwise :
    let indexed := marked.after (.createIndex "d" "c" "mark")
    (indexed.Reachable ∧ marked.Reachable ∧
      Query.documentsMeeting indexed.source ⟨true, '-'⟩ "d" "c" (Predicate.isMember "mark" marks) =
        Query.documentsMeeting marked.source ⟨false, '-'⟩ "d" "c"
          (Predicate.equalsSome "mark" marks) ∧
      (Query.documentsMeeting marked.source ⟨false, '-'⟩ "d" "c"
        (Predicate.equalsSome "mark" marks)).map (·.map Document.key?) =
          .ok [some "k1", some "k2"]) ∧
    (isIn.holds (.array marks) (.string "Kept") = true ∧
      isIn.isMeaningful .array .string = true) ∧
    [greater, equals, smaller].countP (fun comparison =>
      comparison.holds (.number .zero) (.number minusZero)) = 1 ∧
    ∀ comparison : Comparison,
      comparison.holds (.number .nan) (.number .nan) = (comparison == notEquals) := by
  intro indexed
  obtain ⟨meaningful, -, numbers, -, lists⟩ := holds_exact
  have reachable : marked.Reachable := Store.Reachable.empty.afterAll _
  have indexedReachable : indexed.Reachable := reachable.operated _
  have isListed : isIn.holds (.array marks) (.string "Kept") = true := by decide +kernel
  refine ⟨⟨indexedReachable, reachable, ?_, by decide +kernel⟩,
    ⟨isListed, meaningful isIn (.array marks) (.string "Kept") isListed⟩, ?_, ?_⟩
  · exact (lists marks).2.2 marked indexed _ _ "d" "c" "mark" reachable indexedReachable rfl
  · exact (numbers .zero minusZero).2.2.1 rfl rfl
  · exact (numbers .nan .nan).2.2.2 (.inl rfl)

end Comparison

end DocStore
