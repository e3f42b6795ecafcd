import DocStore.Comparison

/-!
Contract: what comparisons have to do with each other.

Only some comparisons of values of two kinds have a meaning, and no other one holds.
Inequality is the opposite of equality wherever it has a meaning, so the two cover
the values of one kind, unless these are arrays; null is never unequal. The
comparisons of order are told by one of them and by equality. Two numbers stand in
exactly one of the three relations, except that NaN differs from every number and
stands in no other comparison to it. Turning the sides around turns the order
around. Membership is equality with some scalar of the list.

Owns: `Comparison.isMeaningful`, the laws of `Comparison.holds`.
-/

namespace DocStore

namespace Number

theorem isAtMost_eq (left right : Number) :
    left.isAtMost right = (left.isLess right || left.equals right) := by
  rw [isAtMost, isLess, equals, ← Bool.and_or_distrib_left, Bool.eq_iff_iff]
  simp [Int.le_iff_lt_or_eq]

theorem equals_comm (left right : Number) : left.equals right = right.equals left := by
  rw [equals, equals, Bool.and_comm (!left.isNaN), Bool.beq_comm]

end Number

namespace Comparison

/-- Whether a comparison of a literal with a value has a meaning for their kinds. -/
def isMeaningful (comparison : Comparison) (literal found : Kind) : Bool :=
  match comparison with
  | equals => literal == found && literal != .array
  | notEquals => literal == found && literal != .array && literal != .null
  | greater | greaterOrEqual | smaller | smallerOrEqual => literal == .number && found == .number
  | isIn => literal == .array && found != .array && found != .object
  | isNotIn => false
  | contains => literal == .string && found == .string

/-! ## Kinds -/

theorem holds_of_scalars {comparison : Comparison} {literal found : Value}
    (literalScalar : literal.isScalar = true) (foundScalar : found.isScalar = true) :
    comparison.holds literal found = comparison.holdsOnScalars literal found := by
  cases literal with
  | array members => cases literalScalar
  | object fields => cases literalScalar
  | _ => simp [holds, literalScalar, foundScalar]

theorem isMeaningful_and_holds (comparison : Comparison) (literal found : Value) :
    (comparison.isMeaningful literal.kind found.kind && comparison.holds literal found) =
      comparison.holds literal found := by
  cases literal <;> cases found <;> cases comparison <;> rfl

theorem isMeaningful_of_holds {comparison : Comparison} {literal found : Value}
    (holds : comparison.holds literal found = true) :
    comparison.isMeaningful literal.kind found.kind = true := by
  rw [← isMeaningful_and_holds, Bool.and_eq_true] at holds
  exact holds.1

/-- Values of different kinds are not equal. -/
theorem kind_eq_of_equals {literal found : Value} (equal : equals.holds literal found = true) :
    literal.kind = found.kind := by
  have meaningful := isMeaningful_of_holds equal
  rw [isMeaningful, Bool.and_eq_true, beq_iff_eq] at meaningful
  exact meaningful.1

/-! ## Equality and inequality -/

theorem holds_notEquals (literal found : Value) :
    notEquals.holds literal found =
      (notEquals.isMeaningful literal.kind found.kind && !equals.holds literal found) := by
  cases literal <;> cases found <;> rfl

theorem equals_and_notEquals (literal found : Value) :
    (equals.holds literal found && notEquals.holds literal found) = false := by
  rw [holds_notEquals]
  cases equals.holds literal found <;> simp

/-- Values of one kind are equal or unequal, if they are not arrays. -/
theorem equals_or_notEquals_iff (literal found : Value) :
    (equals.holds literal found || notEquals.holds literal found) = true ↔
      literal.kind = found.kind ∧ literal.kind ≠ .array := by
  constructor
  · intro holds
    obtain equal | unequal := Bool.or_eq_true_iff.1 holds
    · simpa [isMeaningful] using isMeaningful_of_holds equal
    · have meaningful := isMeaningful_of_holds unequal
      simp only [isMeaningful, Bool.and_eq_true, beq_iff_eq, bne_iff_ne] at meaningful
      exact meaningful.1
  · rintro ⟨sameKind, notArray⟩
    rw [holds_notEquals, isMeaningful, ← sameKind]
    by_cases isNull : literal.kind = .null
    · -- Null has no inequality, so it is its equality that holds.
      cases literal with
      | null =>
          cases found with
          | null => rfl
          | _ => cases sameKind
      | _ => cases isNull
    · simp [notArray, isNull]

/-! ## Order -/

/-- Turning the sides around turns the order around. -/
theorem holds_greater (literal found : Value) :
    greater.holds literal found = smaller.holds found literal := by
  cases literal <;> cases found <;> rfl

theorem holds_greaterOrEqual (literal found : Number) :
    greaterOrEqual.holds (.number literal) (.number found) =
      (greater.holds (.number literal) (.number found) ||
        equals.holds (.number literal) (.number found)) :=
  literal.isAtMost_eq found

theorem holds_smallerOrEqual (literal found : Number) :
    smallerOrEqual.holds (.number literal) (.number found) =
      (smaller.holds (.number literal) (.number found) ||
        equals.holds (.number literal) (.number found)) := by
  show found.isAtMost literal = (found.isLess literal || literal.equals found)
  rw [found.isAtMost_eq, found.equals_comm]

/-- Two numbers stand in one of three relations. -/
theorem countP_holds_eq_one {literal found : Number} (literalNumber : literal.isNaN = false)
    (foundNumber : found.isNaN = false) :
    [greater, equals, smaller].countP (fun comparison =>
      comparison.holds (.number literal) (.number found)) = 1 := by
  have isGreater : greater.holds (.number literal) (.number found) =
      decide (literal.rank < found.rank) := by
    show literal.isLess found = _
    rw [Number.isLess, literalNumber, foundNumber]
    rfl
  have isEqual : equals.holds (.number literal) (.number found) =
      decide (literal.rank = found.rank) := by
    show literal.equals found = _
    rw [Number.equals, literalNumber, foundNumber]
    rfl
  have isSmaller : smaller.holds (.number literal) (.number found) =
      decide (found.rank < literal.rank) := by
    show found.isLess literal = _
    rw [Number.isLess, literalNumber, foundNumber]
    rfl
  simp only [List.countP_cons, List.countP_nil, isGreater, isEqual, isSmaller, decide_eq_true_eq]
  obtain less | same | more := Int.lt_trichotomy literal.rank found.rank
  · rw [if_pos less, if_neg (by omega), if_neg (by omega)]
  · rw [if_pos same, if_neg (by omega), if_neg (by omega)]
  · rw [if_pos more, if_neg (by omega), if_neg (by omega)]

/-- NaN is different from every number, and nothing else. -/
theorem holds_of_isNaN {literal found : Number}
    (someNaN : literal.isNaN = true ∨ found.isNaN = true) (comparison : Comparison) :
    comparison.holds (.number literal) (.number found) = (comparison == notEquals) := by
  have eitherNaN : (!literal.isNaN && !found.isNaN) = false := by
    obtain isNaN | isNaN := someNaN <;> simp [isNaN]
  have otherNaN : (!found.isNaN && !literal.isNaN) = false := by rw [Bool.and_comm, eitherNaN]
  show comparison.holdsOnNumbers literal found = _
  cases comparison <;>
    simp only [holdsOnNumbers, Number.equals, Number.isLess, Number.isAtMost, eitherNaN, otherNaN,
      Bool.false_and] <;> rfl

/-! ## Membership -/

/-- An array literal stands for the equalities with its scalars, and only under `isIn`. -/
theorem holds_array (comparison : Comparison) (members : List Value) (found : Value) :
    comparison.holds (.array members) found =
      (comparison == isIn && (members.filter Value.isScalar).any fun member =>
        equals.holds member found) := by
  rw [List.any_filter, holds]
  cases foundScalar : found.isScalar with
  | false =>
      have none : (members.any fun member => member.isScalar && equals.holds member found) =
          false := by
        rw [List.any_eq_false]
        intro member _
        cases found <;> cases foundScalar <;> cases member <;> simp [holds, Value.isScalar]
      rw [none, Bool.and_false]
      rfl
  | true =>
      rw [Bool.true_and]
      congr 2
      funext member
      cases memberScalar : member.isScalar with
      | false => rfl
      | true => rw [holds_of_scalars memberScalar foundScalar]

end Comparison

end DocStore
