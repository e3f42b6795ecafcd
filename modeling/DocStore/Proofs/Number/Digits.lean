import DocStore.Number.Numeral
import DocStore.Number.Text
import DocStore.Proofs.Number.Exact
import DocStore.Proofs.Text.Cut

/-!
Contract: the digits in which decimals are written.

A decimal can be put together again from its digits wherever the point stands
among them, with zeros in front that count for nothing. Zeros behind the digits
are an exponent. So whichever layout writes out the digits around the point, the
parts before and behind it have the position of the decimal.

Owns: runs of digits, decimals from their parts, and the parts that layouts write.
-/

namespace DocStore.Number

/-! ## Runs of digits -/

theorem isDigit_eq (character : Char) : isDigit character = character.isDigit := by
  unfold isDigit Char.isDigit
  rfl

theorem isDigit_of_mem_toDigits {number : Nat} {character : Char}
    (member : character ∈ Nat.toDigits 10 number) : isDigit character = true := by
  rw [isDigit_eq]
  exact Nat.isDigit_of_mem_toDigits (by decide) (by decide) member

theorem isDigit_of_mem_replicate {amount : Nat} {character : Char}
    (member : character ∈ List.replicate amount '0') : isDigit character = true := by
  rw [List.eq_of_mem_replicate member]
  decide

theorem isDigit_of_mem_zero : ∀ character ∈ ['0'], isDigit character = true :=
  fun _ member => @isDigit_of_mem_replicate 1 _ member

theorem spanDigits_append {digits rest : List Char}
    (areDigits : ∀ character ∈ digits, isDigit character = true)
    (ends : Text.Stops isDigit rest) : spanDigits (digits ++ rest) = (digits, rest) := by
  rw [spanDigits, Text.takeWhile_append_of_stops areDigits ends,
    Text.dropWhile_append_of_stops areDigits ends]

theorem spanDigits_all {digits : List Char}
    (areDigits : ∀ character ∈ digits, isDigit character = true) :
    spanDigits digits = (digits, []) := by
  have nothing : Text.Stops isDigit [] := fun first isHead => by cases isHead
  have spanned := spanDigits_append areDigits nothing
  rwa [List.append_nil] at spanned

/-- Only zero is written with a leading zero. -/
theorem head?_toDigits_ne {number : Nat} (positive : 0 < number) :
    (Nat.toDigits 10 number).head? ≠ some '0' := by
  induction number using Nat.strongRecOn with
  | ind number inductionHypothesis =>
      by_cases small : number < 10
      · rw [Nat.toDigits_of_lt_base small]
        intro isZero
        have same : Nat.digitChar number = '0' := Option.some.inj isZero
        have value := Nat.toNat_digitChar_sub_48_of_lt_ten small
        rw [same] at value
        have absent : number = 0 := value.symm
        omega
      · rw [Nat.toDigits_of_base_le (by decide) (by omega), List.head?_append]
        have before := inductionHypothesis (number / 10) (by omega) (by omega)
        cases first : (Nat.toDigits 10 (number / 10)).head? with
        | none => exact absurd (List.head?_eq_none_iff.1 first) Nat.toDigits_ne_nil
        | some character =>
            rw [first] at before
            exact before

theorem eq_zero_of_head?_toDigits {number : Nat}
    (leading : (Nat.toDigits 10 number).head? = some '0') : number = 0 := by
  by_contra present
  exact head?_toDigits_ne (Nat.pos_of_ne_zero present) leading

/-! ## Decimals from their parts -/

/-- All digits together are those of a decimal, wherever they are parted. -/
theorem Decimal.ofParts_eq {decimal : Decimal} {whole fraction : List Char} {exponent : Int}
    (zeros : Nat)
    (allDigits : whole ++ fraction = List.replicate zeros '0' ++ Nat.toDigits 10 decimal.digits)
    (balanced : exponent - fraction.length = decimal.exponent) :
    Decimal.ofParts whole fraction exponent = decimal := by
  rw [Decimal.ofParts, allDigits, balanced, Nat.ofDigitChars_append,
    Nat.ofDigitChars_replicate_zero, Nat.mul_zero, Nat.ofDigitChars_ten_toDigits]

/-- Zeros behind the digits are a power of ten. -/
theorem Decimal.ofParts_zeros (digits zeros : Nat) (fraction : List Char)
    (areZeros : fraction = List.replicate fraction.length '0') :
    Decimal.ofParts (Nat.toDigits 10 digits ++ List.replicate zeros '0') fraction 0 =
      ⟨digits * 10 ^ (zeros + fraction.length), -fraction.length⟩ := by
  rw [Decimal.ofParts, areZeros, List.append_assoc, List.replicate_append_replicate,
    Nat.ofDigitChars_append, Nat.ofDigitChars_replicate_zero, Nat.ofDigitChars_ten_toDigits,
    List.length_replicate, Nat.mul_comm, Int.zero_sub]

/-! ## Digits around a point -/

/-- Digits before and behind a point that have the position of a decimal. A leading zero stands
alone. -/
structure Parted (decimal : Decimal) (whole fraction : List Char) : Prop where
  present : whole ≠ []
  leading : whole.head? = some '0' → whole.length = 1
  wholeDigits : ∀ character ∈ whole, isDigit character = true
  fractionDigits : ∀ character ∈ fraction, isDigit character = true
  reads : (Decimal.ofParts whole fraction 0).position = decimal.position

section

variable {decimal : Decimal} {digits : List Char} {point : Int}

theorem parted_below_one (isWritten : digits = Nat.toDigits 10 decimal.digits)
    (isPoint : digits.length + decimal.exponent = point) (below : point ≤ 0) :
    Parted decimal ['0'] (List.replicate point.natAbs '0' ++ digits) where
  present := List.cons_ne_nil '0' []
  leading := fun _ => rfl
  wholeDigits := isDigit_of_mem_zero
  fractionDigits := by
    intro character member
    rcases List.mem_append.1 member with isZero | isDigit
    · exact isDigit_of_mem_replicate isZero
    · rw [isWritten] at isDigit
      exact isDigit_of_mem_toDigits isDigit
  reads := by
    refine congrArg Decimal.position (Decimal.ofParts_eq (point.natAbs + 1) ?_ ?_)
    · rw [List.replicate_succ, isWritten]
      rfl
    · rw [List.length_append, List.length_replicate]
      omega

/-- The digits of a whole number are followed by zeros, behind the point by one at most. -/
theorem parted_whole (isWritten : digits = Nat.toDigits 10 decimal.digits)
    (isPoint : digits.length + decimal.exponent = point) (bounded : decimal.exponent ≤ 400)
    (zeroAlone : decimal.digits = 0 → decimal.exponent = 0) (allWhole : digits.length ≤ point)
    (marks : Bool) :
    Parted decimal (digits ++ List.replicate (point.toNat - digits.length) '0')
      (if marks then ['0'] else []) := by
  -- The zeros before the point are as many as the exponent tells.
  obtain ⟨zeros, isExponent⟩ : ∃ zeros : Nat, decimal.exponent = zeros :=
    ⟨decimal.exponent.toNat, by omega⟩
  have zerosBounded : zeros ≤ 400 := by omega
  have amount : point.toNat - digits.length = zeros := by omega
  have isDecimal : decimal = ⟨decimal.digits, zeros⟩ := by rw [← isExponent]
  have present : digits ≠ [] := by
    rw [isWritten]
    exact Nat.toDigits_ne_nil
  rw [amount]
  constructor
  case present => exact List.append_ne_nil_of_left_ne_nil present _
  case leading =>
    intro leading
    have isHead : digits.head? = some '0' := by
      cases digits with
      | nil => exact absurd rfl present
      | cons first others => exact leading
    rw [isWritten] at isHead
    have noDigits := eq_zero_of_head?_toDigits isHead
    have noZeros : zeros = 0 := by
      have noExponent := zeroAlone noDigits
      omega
    rw [isWritten, noDigits, noZeros]
    rfl
  case wholeDigits =>
    intro character member
    rcases List.mem_append.1 member with isDigit | isZero
    · rw [isWritten] at isDigit
      exact isDigit_of_mem_toDigits isDigit
    · exact isDigit_of_mem_replicate isZero
  case fractionDigits =>
    cases marks with
    | true => exact isDigit_of_mem_zero
    | false => exact fun _ member => absurd member List.not_mem_nil
  case reads =>
    rw [isWritten]
    cases marks with
    | true =>
        rw [if_pos rfl, Decimal.ofParts_zeros _ _ ['0'] rfl]
        show Decimal.position ⟨decimal.digits * 10 ^ (zeros + 1), -1⟩ = decimal.position
        rw [position_shifted _ zerosBounded, ← isDecimal]
    | false =>
        rw [if_neg Bool.false_ne_true, Decimal.ofParts_zeros _ _ [] rfl]
        show Decimal.position ⟨decimal.digits * 10 ^ zeros, 0⟩ = decimal.position
        rw [position_padded _ zerosBounded, ← isDecimal]

theorem parted_inside (isWritten : digits = Nat.toDigits 10 decimal.digits)
    (isPoint : digits.length + decimal.exponent = point) (positive : 0 < point)
    (inside : point < digits.length) :
    Parted decimal (digits.take point.toNat) (digits.drop point.toNat) where
  present := by
    rw [ne_eq, ← List.length_eq_zero_iff, List.length_take]
    omega
  leading := by
    intro leading
    rw [List.head?_take, if_neg (by omega), isWritten] at leading
    rw [isWritten, eq_zero_of_head?_toDigits leading, Nat.toDigits_zero] at inside
    have short : point < 1 := inside
    omega
  wholeDigits := by
    intro character member
    have written := List.mem_of_mem_take member
    rw [isWritten] at written
    exact isDigit_of_mem_toDigits written
  fractionDigits := by
    intro character member
    have written := List.mem_of_mem_drop member
    rw [isWritten] at written
    exact isDigit_of_mem_toDigits written
  reads := by
    refine congrArg Decimal.position (Decimal.ofParts_eq 0 ?_ ?_)
    · rw [List.take_append_drop, isWritten]
      rfl
    · rw [List.length_drop]
      omega

/-- Every layout parts the digits of a decimal at its point, and leaves the point out only where
it does not mark whole numbers. -/
theorem exists_parted (layout : Layout) (isWritten : digits = Nat.toDigits 10 decimal.digits)
    (isPoint : digits.length + decimal.exponent = point) (bounded : decimal.exponent ≤ 400)
    (zeroAlone : decimal.digits = 0 → decimal.exponent = 0) :
    ∃ whole fraction, Parted decimal whole fraction ∧
      (layout.marksWhole = true → fraction.isEmpty = false) ∧
      layout.writePositional digits point =
        whole ++ if fraction.isEmpty then [] else '.' :: fraction := by
  have length : 0 < digits.length := by
    rw [isWritten]
    exact Nat.length_toDigits_pos
  unfold Layout.writePositional
  by_cases below : point ≤ 0
  · have someDigits : (List.replicate point.natAbs '0' ++ digits).isEmpty = false := by
      rw [List.isEmpty_eq_false_iff, ne_eq, List.append_eq_nil_iff]
      exact fun none => absurd none.2 (List.ne_nil_of_length_pos length)
    refine ⟨_, _, parted_below_one isWritten isPoint below, fun _ => someDigits, ?_⟩
    rw [if_pos below, someDigits]
    rfl
  · rw [if_neg below]
    by_cases allWhole : digits.length ≤ point.toNat
    · refine ⟨_, _, parted_whole isWritten isPoint bounded zeroAlone (by omega) layout.marksWhole,
        ?_, ?_⟩
      · intro marks
        rw [marks]
        rfl
      · rw [if_pos allWhole]
        cases layout.marksWhole <;> rfl
    · have someDigits : (digits.drop point.toNat).isEmpty = false := by
        rw [List.isEmpty_eq_false_iff, ne_eq, List.drop_eq_nil_iff]
        exact allWhole
      refine ⟨_, _, parted_inside isWritten isPoint (by omega) (by omega), fun _ => someDigits, ?_⟩
      rw [if_neg allWhole, someDigits]
      rfl

end

end DocStore.Number
