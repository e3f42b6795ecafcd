/-!
Contract: outcomes of computations that can fail.

Owns: when a computation in steps succeeds, and telling a success by its result.
-/

namespace DocStore

/-- A computation and one that goes on with its result succeed together. -/
theorem bind_eq_ok_iff {Fault Middle Result : Type} {first : Except Fault Middle}
    {next : Middle → Except Fault Result} {result : Result} :
    (first >>= next) = .ok result ↔ ∃ middle, first = .ok middle ∧ next middle = .ok result := by
  cases first with
  | error fault => simp [bind, Except.bind]
  | ok middle => simp [bind, Except.bind]

/-- An outcome that is told by its result alone. -/
theorem eq_ok_of_toOption {Fault Result : Type} {outcome : Except Fault Result}
    {result : Result} (isSome : outcome.toOption = some result) : outcome = .ok result := by
  cases outcome with
  | error fault => cases isSome
  | ok value => rw [Option.some.inj isSome]

end DocStore
