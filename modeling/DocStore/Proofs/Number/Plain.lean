import DocStore.Number.Text
import DocStore.Proofs.Number.Digits
import DocStore.Proofs.Number.Zero

/-!
Contract: a number is read back from its plain text.

The plain layout writes out every digit, so its text is a numeral without an
exponent that has the position of the number. Only the zeros share a text. A
plain text consists of digits, a minus, a point and the letters of two words.

Owns: what plain texts look like, and their reading.
-/

namespace DocStore.Number

/-! ## Numerals in digits -/

theorem decimal?_whole {digits : List Char} (present : digits ≠ [])
    (areDigits : ∀ character ∈ digits, isDigit character = true) :
    decimal? digits = some (Decimal.ofParts digits [] 0) := by
  unfold decimal? spanFraction
  rw [spanDigits_all areDigits]
  simp [present]

theorem decimal?_pointed {whole fraction : List Char} (present : whole ≠ [])
    (wholeDigits : ∀ character ∈ whole, isDigit character = true)
    (fractionDigits : ∀ character ∈ fraction, isDigit character = true) :
    decimal? (whole ++ '.' :: fraction) = some (Decimal.ofParts whole fraction 0) := by
  have afterWhole : Text.Stops isDigit ('.' :: fraction) := by
    intro first isHead
    rw [← Option.some.inj isHead]
    decide
  unfold decimal? spanFraction
  rw [spanDigits_append wholeDigits afterWhole]
  simp [spanDigits_all fractionDigits, present]

/-- A text of digits, with at most one point behind the first, that is read as a position. -/
structure Spells (text : List Char) (position : Nat) : Prop where
  begins : ∃ first, text.head? = some first ∧ isDigit first = true
  inDigits : ∀ character ∈ text, isDigit character = true ∨ character = '.'
  reads : ∃ decimal, decimal? text = some decimal ∧ decimal.position = position

theorem head?_append_of_digits {whole : List Char} (rest : List Char) (present : whole ≠ [])
    (wholeDigits : ∀ character ∈ whole, isDigit character = true) :
    ∃ first, (whole ++ rest).head? = some first ∧ isDigit first = true := by
  cases whole with
  | nil => exact absurd rfl present
  | cons first others => exact ⟨first, rfl, wholeDigits first (List.mem_cons_self ..)⟩

theorem Spells.whole {digits : List Char} {position : Nat} (present : digits ≠ [])
    (areDigits : ∀ character ∈ digits, isDigit character = true)
    (reads : (Decimal.ofParts digits [] 0).position = position) : Spells digits position where
  begins := by
    have begins := head?_append_of_digits [] present areDigits
    rwa [List.append_nil] at begins
  inDigits := fun character member => .inl (areDigits character member)
  reads := ⟨_, decimal?_whole present areDigits, reads⟩

theorem Spells.pointed {whole fraction : List Char} {position : Nat} (present : whole ≠ [])
    (wholeDigits : ∀ character ∈ whole, isDigit character = true)
    (fractionDigits : ∀ character ∈ fraction, isDigit character = true)
    (reads : (Decimal.ofParts whole fraction 0).position = position) :
    Spells (whole ++ '.' :: fraction) position where
  begins := head?_append_of_digits _ present wholeDigits
  inDigits := by
    intro character member
    rcases List.mem_append.1 member with isWhole | isRest
    · exact .inl (wholeDigits character isWhole)
    · rcases List.mem_cons.1 isRest with isPoint | isFraction
      · exact .inr isPoint
      · exact .inl (fractionDigits character isFraction)
  reads := ⟨_, decimal?_pointed present wholeDigits fractionDigits, reads⟩

/-! ## The plain layout -/

/-- The digits of a natural number are read as the position nearest to it. -/
theorem spells_toDigits (value : Nat) :
    Spells (Nat.toDigits 10 value) (nearestPosition value 1) := by
  refine .whole Nat.toDigits_ne_nil (fun _ member => isDigit_of_mem_toDigits member) ?_
  have reads := position_natCast value (Nat.zero_le 400)
  rw [Nat.pow_zero, Nat.mul_one] at reads
  rw [← reads, Decimal.ofParts, List.append_nil, Nat.ofDigitChars_ten_toDigits]
  rfl

theorem spells_of_parted {decimal : Decimal} {whole fraction : List Char}
    (parted : Parted decimal whole fraction) :
    Spells (whole ++ if fraction.isEmpty then [] else '.' :: fraction) decimal.position := by
  cases fraction with
  | nil =>
      show Spells (whole ++ []) _
      rw [List.append_nil]
      exact .whole parted.present parted.wholeDigits parted.reads
  | cons first others =>
      exact .pointed parted.present parted.wholeDigits parted.fractionDigits parted.reads

theorem spells_writePosition {position : Nat} (inside : position < gridSize) :
    Spells (Layout.plain.writePosition position) position := by
  obtain ⟨whole, fraction, parted, _, written⟩ := exists_parted .plain rfl rfl
    (@exponent_shortest_le .up _ inside) exponent_of_no_digits
  have spells := spells_of_parted parted
  rw [← written, position_shortest] at spells
  exact spells

/-! ## Plain texts -/

/-- The sign in front of a text without a sign. -/
def signed (negative : Bool) (text : List Char) : List Char :=
  if negative then '-' :: text else text

/-- The plain text of a finite number is a sign and the digits of a position. -/
theorem plainChars_of_finite {number : Number} (finite : number.isFinite = true) :
    ∃ negative text position, number.plainChars = signed negative text ∧
      Spells text position ∧ number.withoutNegativeZero = atPosition negative position := by
  unfold plainChars
  cases whole : number.whole? with
  | some value =>
      refine ⟨decide (value < 0), _, _, ?_, spells_toDigits value.natAbs,
        (ofInt_of_whole? whole).symm⟩
      by_cases negative : value < 0 <;> simp [integerText, signed, negative]
  | none =>
      cases number with
      | nan => cases finite
      | infinite negative => cases finite
      | finite negative position =>
          refine ⟨negative, _, _, rfl, spells_writePosition position.isLt, ?_⟩
          rw [withoutNegativeZero_of_not_whole whole, atPosition, dif_pos position.isLt]

/-- The characters of plain numbers and of the words that stand for a value. -/
def isBare (character : Char) : Bool :=
  isDigit character || character.isAlpha || character == '-' || character == '.'

/-- The characters that a plain number begins with. -/
def beginsNumber (character : Char) : Bool :=
  isDigit character || character == '-' || character == 'N' || character == 'I'

theorem isBare_of_mem_plainChars (number : Number) :
    ∀ character ∈ number.plainChars, isBare character = true := by
  cases number with
  | nan => exact List.all_eq_true.1 rfl
  | infinite negative => cases negative <;> exact List.all_eq_true.1 rfl
  | finite negative position =>
      obtain ⟨sign, text, spelled, isText, spells, _⟩ :=
        @plainChars_of_finite (.finite negative position) rfl
      intro character member
      rw [isText, signed] at member
      have unsigned : character ∈ text → isBare character = true := by
        intro member
        rcases spells.inDigits character member with digit | isPoint
        · simp [isBare, digit]
        · simp [isBare, isPoint]
      cases sign with
      | false => exact unsigned member
      | true =>
          rcases List.mem_cons.1 member with isMinus | isText
          · rw [isMinus]
            decide
          · exact unsigned isText

theorem head?_plainChars (number : Number) :
    ∃ first, number.plainChars.head? = some first ∧ beginsNumber first = true := by
  cases number with
  | nan => exact ⟨'N', rfl, rfl⟩
  | infinite negative =>
      cases negative with
      | false => exact ⟨'I', rfl, rfl⟩
      | true => exact ⟨'-', rfl, rfl⟩
  | finite negative position =>
      obtain ⟨sign, text, spelled, isText, spells, _⟩ :=
        @plainChars_of_finite (.finite negative position) rfl
      rw [isText]
      cases sign with
      | false =>
          obtain ⟨first, isHead, digit⟩ := spells.begins
          exact ⟨first, isHead, by simp [beginsNumber, digit]⟩
      | true => exact ⟨'-', rfl, rfl⟩

/-! ## Reading back -/

theorem spanSign_signed (negative : Bool) {text : List Char} {position : Nat}
    (spells : Spells text position) : spanSign (signed negative text) = (negative, text) := by
  cases negative with
  | true => rfl
  | false =>
      obtain ⟨first, isHead, digit⟩ := spells.begins
      show spanSign text = (false, text)
      unfold spanSign
      split
      next =>
        rw [← Option.some.inj isHead] at digit
        exact absurd digit (by decide)
      next =>
        rw [← Option.some.inj isHead] at digit
        exact absurd digit (by decide)
      next => rfl

/-- The plain text of a number is read back to it, that of negative zero to zero. -/
theorem ofText?_plainText (number : Number) :
    ofText? number.plainText = some number.withoutNegativeZero := by
  cases number with
  | nan => decide
  | infinite negative => cases negative <;> decide
  | finite negative position =>
      obtain ⟨sign, text, spelled, isText, spells, isNumber⟩ :=
        @plainChars_of_finite (.finite negative position) rfl
      obtain ⟨decimal, reads, isPosition⟩ := spells.reads
      rw [ofText?, plainText, String.toList_ofList, isText, spanSign_signed sign spells,
        isNumber]
      simp only [reads, ofDecimal, isPosition]

theorem plainChars_withoutNegativeZero (number : Number) :
    number.withoutNegativeZero.plainChars = number.plainChars := by
  unfold plainChars
  rw [whole?_withoutNegativeZero]
  cases whole : number.whole? with
  | some value => rfl
  | none => rw [withoutNegativeZero_of_not_whole whole]

/-- Two numbers share their plain text when they are the same but for the sign of zero. -/
theorem plainChars_eq_iff (left right : Number) :
    left.plainChars = right.plainChars ↔ left.withoutNegativeZero = right.withoutNegativeZero := by
  constructor
  · intro same
    apply Option.some.inj
    rw [← ofText?_plainText, ← ofText?_plainText, plainText, plainText, same]
  · intro same
    rw [← plainChars_withoutNegativeZero left, same, plainChars_withoutNegativeZero]

end DocStore.Number
