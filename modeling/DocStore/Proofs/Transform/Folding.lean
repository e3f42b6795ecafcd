import DocStore.Transform.Evaluation

/-!
Contract: a fold sees the numbers that its operands come to, and nothing else.

An operand comes to a number when it is one, or when it names a field that holds
one. Any other operand makes no difference wherever it stands, the first place
included, and a named field makes the difference that its number would make.
A fold that starts at its first number goes on from what it has come to, be that
zero or not. Arithmetic is never looked into, so all this holds of any operations
on numbers.

Owns: `Computation.Resolves`, `Fold.GoesOnBy` and the laws of folds.
-/

namespace DocStore

/-! ## Operands -/

namespace Computation

/-- What an operand of a fold comes to in a document. -/
inductive Resolves (document : Document) : Value → Number → Prop
  | literal (number : Number) : Resolves document (.number number) number
  | field {path : String} {number : Number}
      (holds : document.get? path = some (.number number)) :
      Resolves document (.string path) number

variable {document : Document} {operand : Value} {number : Number}

theorem operandNumber?_eq_some_iff :
    operandNumber? document operand = some number ↔ Resolves document operand number := by
  constructor
  · intro comes
    cases operand with
    | number value =>
        rw [operandNumber?, Option.some.injEq] at comes
        rw [comes]
        exact .literal number
    | string path =>
        rw [operandNumber?, Option.bind_eq_some_iff] at comes
        obtain ⟨found, atPath, isNumber⟩ := comes
        cases found with
        | number value =>
            rw [Value.number?, Option.some.injEq] at isNumber
            rw [isNumber] at atPath
            exact .field atPath
        | _ => cases isNumber
    | _ => cases comes
  · intro resolves
    cases resolves with
    | literal => rfl
    | field holds =>
        rw [operandNumber?, holds]
        rfl

theorem operandNumber?_eq_none_iff :
    operandNumber? document operand = none ↔
      ∀ number, ¬Resolves document operand number := by
  rw [Option.eq_none_iff_forall_ne_some]
  exact forall_congr' fun number => not_congr operandNumber?_eq_some_iff

/-- Some operand comes to a number exactly when the fold has a number to start at. -/
theorem filterMap_operandNumber?_eq_nil_iff (operands : List Value) :
    operands.filterMap (operandNumber? document) = [] ↔
      ∀ operand ∈ operands, ∀ number, ¬Resolves document operand number := by
  rw [List.filterMap_eq_nil_iff]
  exact forall₂_congr fun _ _ => operandNumber?_eq_none_iff

end Computation

/-! ## Folds that start at their first number -/

namespace Fold

/-- How a fold that starts at its first number takes in a further one. -/
inductive GoesOnBy : Fold → (Number → Number → Number) → Prop
  | product : GoesOnBy product Number.mul
  | quotient : GoesOnBy quotient Number.div
  | power : GoesOnBy power Number.power
  | root : GoesOnBy root fun base degree => base.power ((Number.ofNat 1).div degree)

variable {fold : Fold} {step : Number → Number → Number}

theorem GoesOnBy.run_eq (goesOn : fold.GoesOnBy step) (numbers : List Number) :
    fold.run numbers = fromFirst step numbers := by
  cases goesOn <;> rfl

/-- One number alone is added to zero. -/
theorem GoesOnBy.run_singleton (goesOn : fold.GoesOnBy step) (number : Number) :
    fold.run [number] = Number.zero.add number := by
  rw [goesOn.run_eq]
  rfl

/-- A number behind others is taken in by one more step, whatever the others come to. -/
theorem GoesOnBy.run_concat (goesOn : fold.GoesOnBy step) {numbers : List Number}
    (started : numbers ≠ []) (number : Number) :
    fold.run (numbers ++ [number]) = step (fold.run numbers) number := by
  rw [goesOn.run_eq, goesOn.run_eq]
  cases numbers with
  | nil => exact absurd rfl started
  | cons first rest =>
      rw [List.cons_append, fromFirst, fromFirst, List.foldl_append]
      rfl

end Fold

/-! ## Evaluation -/

namespace Computation

/-- Operands that come to the same numbers in the same order are folded alike. -/
theorem evaluate_fold_congr (settings : Settings) {document : Document} (fold : Fold)
    {operands others : List Value}
    (same : operands.filterMap (operandNumber? document) =
      others.filterMap (operandNumber? document)) :
    (array (.fold fold) operands).evaluate settings document =
      (array (.fold fold) others).evaluate settings document := by
  rw [evaluate, evaluate, same]

/-- A fold is the same with and without an operand that comes to no number, and with a field or
the number that it holds. A further number is combined with what a fold that starts at its first
number has come to, and added to zero if there was no number yet. -/
theorem evaluate_fold_exact (settings : Settings) (document : Document) (fold : Fold) :
    (∀ before after operand, (∀ number, ¬Resolves document operand number) →
      (array (.fold fold) (before ++ operand :: after)).evaluate settings document =
        (array (.fold fold) (before ++ after)).evaluate settings document) ∧
      (∀ before after path number, document.get? path = some (.number number) →
        (array (.fold fold) (before ++ .string path :: after)).evaluate settings document =
          (array (.fold fold) (before ++ .number number :: after)).evaluate settings document) ∧
      ∀ step, fold.GoesOnBy step → ∀ operands last number, Resolves document last number →
        ((∃ operand ∈ operands, ∃ other, Resolves document operand other) →
          ∃ result,
            (array (.fold fold) operands).evaluate settings document = .number result ∧
              (array (.fold fold) (operands ++ [last])).evaluate settings document =
                .number (step result number)) ∧
          ((∀ operand ∈ operands, ∀ other, ¬Resolves document operand other) →
            (array (.fold fold) (operands ++ [last])).evaluate settings document =
              .number (Number.zero.add number)) := by
  refine ⟨?_, ?_, ?_⟩
  · intro before after operand silent
    apply evaluate_fold_congr
    rw [List.filterMap_append, List.filterMap_append,
      List.filterMap_cons_none (operandNumber?_eq_none_iff.2 silent)]
  · intro before after path number holds
    apply evaluate_fold_congr
    have named := operandNumber?_eq_some_iff.2 (.field holds)
    have itself : operandNumber? document (.number number) = some number := rfl
    rw [List.filterMap_append, List.filterMap_append, List.filterMap_cons_some named,
      List.filterMap_cons_some itself]
  · intro step goesOn operands last number resolves
    have numbers : (operands ++ [last]).filterMap (operandNumber? document) =
        operands.filterMap (operandNumber? document) ++ [number] := by
      rw [List.filterMap_append, List.filterMap_cons_some (operandNumber?_eq_some_iff.2 resolves)]
      rfl
    refine ⟨?_, ?_⟩
    · rintro ⟨operand, member, other, isNumber⟩
      refine ⟨_, rfl, ?_⟩
      rw [evaluate, numbers, goesOn.run_concat]
      intro none
      exact (filterMap_operandNumber?_eq_nil_iff operands).1 none operand member other isNumber
    · intro none
      rw [evaluate, numbers, (filterMap_operandNumber?_eq_nil_iff operands).2 none]
      exact congrArg Value.number (goesOn.run_singleton number)

private def receipt : Document :=
  ⟨[("note", .string "paid"), ("price", .number (Number.ofNat 5))]⟩

/-- The first operand names a text and counts for nothing, so the product starts at the zero
behind it and goes on from zero to the price. -/
theorem evaluate_fold_exact_from_zero :
    (array (.fold .product) [.string "note", .number .zero, .string "price"]).evaluate
        ⟨true, '-'⟩ receipt =
      .number ((Number.zero.add .zero).mul (Number.ofNat 5)) := by
  obtain ⟨skips, names, goesOn⟩ := evaluate_fold_exact ⟨true, '-'⟩ receipt .product
  have price : receipt.get? "price" = some (.number (Number.ofNat 5)) := rfl
  have noNumber : ∀ number, ¬Resolves receipt (.string "note") number := by
    intro number resolves
    cases resolves with
    | field holds =>
        have text : receipt.get? "note" = some (.string "paid") := rfl
        rw [text] at holds
        cases holds
  have started : (array (.fold .product) [.number .zero]).evaluate ⟨true, '-'⟩ receipt =
      .number (Number.zero.add .zero) :=
    (goesOn _ .product [] _ _ (.literal Number.zero)).2 fun _ member =>
      absurd member List.not_mem_nil
  obtain ⟨result, isResult, further⟩ :=
    (goesOn _ .product [.number .zero] _ _ (.literal (Number.ofNat 5))).1
      ⟨_, List.mem_singleton_self _, _, .literal _⟩
  rw [started] at isResult
  rw [Value.number.inj isResult]
  calc (array (.fold .product) [.string "note", .number .zero, .string "price"]).evaluate
        ⟨true, '-'⟩ receipt
      = (array (.fold .product) [.number .zero, .string "price"]).evaluate ⟨true, '-'⟩ receipt :=
        skips [] _ _ noNumber
    _ = (array (.fold .product) [.number .zero, .number (Number.ofNat 5)]).evaluate
        ⟨true, '-'⟩ receipt := names [.number .zero] [] "price" _ price
    _ = .number (Number.mul result (Number.ofNat 5)) := further

end Computation

end DocStore
