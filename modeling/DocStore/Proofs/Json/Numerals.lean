import Mathlib.Algebra.Ring.Int.Defs
import Mathlib.Algebra.Ring.Nat
import DocStore.Json.Parser
import DocStore.Json.Printer
import DocStore.Proofs.Number.Digits

/-!
Contract: number literals are read back as they were written.

Written digits are read up to the first character that cannot extend them. The
JSON layout always writes a point or an exponent, so a double is never taken for
an integer, and wherever it puts the point the literal denotes a decimal with
the position of the double. A reader of numerals that rounds this decimal reads
the double back; of any other it is an assumption. Integers of at most 64 bits
are written as digits alone and stay integers.

Owns: what ends a literal, `Json.ReadsBack`, and reading back of both kinds of
number literals.
-/

namespace DocStore.Json

open Number (Decimal Layout isDigit isDigit_of_mem_toDigits spanDigits spanDigits_append)

/-! ## Digits -/

/-- A list that a number literal does not go on into. -/
def EndsNumber (rest : List Char) : Prop :=
  ∀ first, rest.head? = some first →
    isDigit first = false ∧ first ≠ '.' ∧ first ≠ 'e' ∧ first ≠ 'E'

theorem endsNumber_nil : EndsNumber [] := fun _ isHead => by cases isHead

/-- Whether digits may stand before the point: a leading zero stands alone. -/
def isWholePart (digits : List Char) : Bool :=
  !(digits.isEmpty || digits.head? == some '0' && decide (1 < digits.length))

theorem isWholePart_of_leading {digits : List Char} (present : digits ≠ [])
    (leading : digits.head? = some '0' → digits.length = 1) : isWholePart digits = true := by
  have notEmpty : digits.isEmpty = false := List.isEmpty_eq_false_iff.2 present
  rw [isWholePart, notEmpty, Bool.false_or]
  by_cases isZero : digits.head? = some '0'
  · rw [leading isZero]
    simp
  · simp [isZero]

theorem isWholePart_toDigits (number : Nat) : isWholePart (Nat.toDigits 10 number) = true := by
  apply isWholePart_of_leading Nat.toDigits_ne_nil
  intro leading
  rw [Number.eq_zero_of_head?_toDigits leading]
  rfl

/-! ## The parts of a literal -/

variable {rest : List Char}

/-- The digits behind the point, and the point, as they are written. -/
def fractionText (digits : List Char) : List Char := if digits.isEmpty then [] else '.' :: digits

/-- The exponent that the scientific layout writes. -/
def exponentText : Option Int → List Char
  | none => []
  | some exponent =>
      'e' :: (if exponent < 0 then '-' else '+') :: Nat.toDigits 10 exponent.natAbs

theorem fraction?_fractionText {digits : List Char}
    (areDigits : ∀ character ∈ digits, isDigit character = true)
    (ends : ∀ first, rest.head? = some first → isDigit first = false ∧ first ≠ '.') :
    fraction? (fractionText digits ++ rest) =
      some (if digits.isEmpty then none else some digits, rest) := by
  cases shape : digits.isEmpty with
  | true =>
      rw [fractionText, shape]
      show fraction? rest = some (none, rest)
      unfold fraction?
      split
      next more => exact absurd rfl (ends '.' rfl).2
      next => rfl
  | false =>
      rw [fractionText, shape]
      show fraction? ('.' :: (digits ++ rest)) = some (some digits, rest)
      unfold fraction?
      simp only [spanDigits_append areDigits fun first isHead => (ends first isHead).1, shape]
      rfl

theorem exponent?_exponentText (exponent : Option Int) (ends : EndsNumber rest) :
    exponent? (exponentText exponent ++ rest) = some (exponent, rest) := by
  cases exponent with
  | none =>
      show exponent? rest = some (none, rest)
      unfold exponent?
      cases rest with
      | nil => rfl
      | cons marker more =>
          have noMarker := (ends marker rfl).2.2
          exact if_neg (by simp [noMarker])
  | some exponent =>
      have digits : spanDigits (Nat.toDigits 10 exponent.natAbs ++ rest) =
          (Nat.toDigits 10 exponent.natAbs, rest) :=
        spanDigits_append (fun _ member => isDigit_of_mem_toDigits member)
          fun first isHead => (ends first isHead).1
      have present : (Nat.toDigits 10 exponent.natAbs).isEmpty = false := by simp
      have signed : ∀ (sign : Char) (negative : Bool),
          Number.spanSign (sign :: (Nat.toDigits 10 exponent.natAbs ++ rest)) =
              (negative, Nat.toDigits 10 exponent.natAbs ++ rest) →
            exponent? ('e' :: sign :: (Nat.toDigits 10 exponent.natAbs ++ rest)) =
              some (some (if negative then -(exponent.natAbs : Int) else exponent.natAbs),
                rest) := by
        intro sign negative spanned
        unfold exponent? Number.spanExponent?
        simp [spanned, digits, Nat.ofDigitChars_ten_toDigits]
      by_cases negative : exponent < 0
      · have text : exponentText (some exponent) ++ rest =
            'e' :: '-' :: (Nat.toDigits 10 exponent.natAbs ++ rest) := by
          rw [exponentText, if_pos negative]
          rfl
        have value : -(exponent.natAbs : Int) = exponent := by omega
        rw [text, signed '-' true rfl, if_pos rfl, value]
      · have text : exponentText (some exponent) ++ rest =
            'e' :: '+' :: (Nat.toDigits 10 exponent.natAbs ++ rest) := by
          rw [exponentText, if_neg negative]
          rfl
        have value : (exponent.natAbs : Int) = exponent := by omega
        rw [text, signed '+' false rfl, if_neg Bool.false_ne_true, value]

/-! ## Whole literals -/

theorem head?_fractionText_append {digits tail : List Char} {first : Char}
    (isHead : (fractionText digits ++ tail).head? = some first) :
    first = '.' ∨ tail.head? = some first := by
  unfold fractionText at isHead
  split at isHead
  · exact .inr isHead
  · exact .inl (Option.some.inj isHead).symm

theorem head?_exponentText_append {exponent : Option Int} {first : Char}
    (isHead : (exponentText exponent ++ rest).head? = some first) :
    first = 'e' ∨ rest.head? = some first := by
  cases exponent with
  | none => exact .inr isHead
  | some exponent => exact .inl (Option.some.inj isHead).symm

/-- The parts of an unsigned literal are told apart. -/
theorem unsigned?_parts [NumeralReader] (negative : Bool) {whole : List Char} (fraction : List Char)
    (exponent : Option Int) (wholeDigits : ∀ character ∈ whole, isDigit character = true)
    (isWhole : isWholePart whole = true)
    (fractionDigits : ∀ character ∈ fraction, isDigit character = true)
    (ends : EndsNumber rest) :
    unsigned? negative (whole ++ (fractionText fraction ++ (exponentText exponent ++ rest))) =
      if fraction.isEmpty && exponent.isNone then
        (ofIntegerLiteral? negative whole).map fun json => (json, rest)
      else
        let number := NumeralReader.number negative whole fraction (exponent.getD 0)
        if number.isFinite then some (decimal number, rest) else none := by
  have afterFraction : ∀ first, (exponentText exponent ++ rest).head? = some first →
      isDigit first = false ∧ first ≠ '.' := by
    intro first isHead
    rcases head?_exponentText_append isHead with isMarker | isRest
    · rw [isMarker]
      exact ⟨by decide, by decide⟩
    · exact ⟨(ends first isRest).1, (ends first isRest).2.1⟩
  have afterWhole : ∀ first,
      (fractionText fraction ++ (exponentText exponent ++ rest)).head? = some first →
        isDigit first = false := by
    intro first isHead
    rcases head?_fractionText_append isHead with isPoint | isRest
    · rw [isPoint]
      decide
    · exact (afterFraction first isRest).1
  have accepted :
      ¬(whole.isEmpty || whole.head? == some '0' && decide (1 < whole.length)) = true := by
    intro refused
    rw [isWholePart, refused] at isWhole
    cases isWhole
  unfold unsigned?
  simp only [spanDigits_append wholeDigits afterWhole]
  rw [if_neg accepted, fraction?_fractionText fractionDigits afterFraction]
  simp only [Option.bind_eq_bind, Option.bind_some, exponent?_exponentText exponent ends]
  cases fraction with
  | nil =>
      cases exponent with
      | none => cases ofIntegerLiteral? negative whole <;> rfl
      | some exponent => rfl
  | cons first others => cases exponent <;> rfl

/-! ## The layout of doubles -/

/-- The parts of a literal that is read as the double at a position. -/
structure Denotes (position : Nat) (whole fraction : List Char) (exponent : Option Int) : Prop where
  wholeDigits : ∀ character ∈ whole, isDigit character = true
  isWhole : isWholePart whole = true
  fractionDigits : ∀ character ∈ fraction, isDigit character = true
  isDouble : (fraction.isEmpty && exponent.isNone) = false
  reads : (Decimal.ofParts whole fraction (exponent.getD 0)).position = position

section

variable (position : Nat)

/-- The digits that are written for a position. -/
def writtenDigits : List Char := Nat.toDigits 10 (Number.shortest .even position).digits

/-- Where the point stands among them. -/
def writtenPoint : Int :=
  (writtenDigits position).length + (Number.shortest .even position).exponent

theorem isDigit_of_mem_writtenDigits {character : Char}
    (member : character ∈ writtenDigits position) : isDigit character = true :=
  isDigit_of_mem_toDigits member

theorem length_writtenDigits_pos : 0 < (writtenDigits position).length :=
  Nat.length_toDigits_pos

/-- Digits that stand around a point without an exponent are a literal of the position. -/
theorem denotes_parted {whole fraction : List Char}
    (parted : Number.Parted (Number.shortest .even position) whole fraction)
    (marked : fraction.isEmpty = false) : Denotes position whole fraction none where
  wholeDigits := parted.wholeDigits
  isWhole := isWholePart_of_leading parted.present parted.leading
  fractionDigits := parted.fractionDigits
  isDouble := by rw [marked, Bool.false_and]
  reads := parted.reads.trans (Number.position_shortest .even position)

theorem denotes_scientific :
    Denotes position ((writtenDigits position).take 1) ((writtenDigits position).drop 1)
      (some (writtenPoint position - 1)) where
  wholeDigits := fun _ member =>
    isDigit_of_mem_writtenDigits position (List.mem_of_mem_take member)
  isWhole := by
    have positive := length_writtenDigits_pos position
    have single : ((writtenDigits position).take 1).length = 1 := by
      rw [List.length_take]
      omega
    exact isWholePart_of_leading (List.ne_nil_of_length_pos (by omega)) fun _ => single
  fractionDigits := fun _ member =>
    isDigit_of_mem_writtenDigits position (List.mem_of_mem_drop member)
  isDouble := Bool.and_false _
  reads := by
    have isShortest : Decimal.ofParts ((writtenDigits position).take 1)
        ((writtenDigits position).drop 1) (writtenPoint position - 1) =
          Number.shortest .even position := by
      refine Decimal.ofParts_eq 0 ?_ ?_
      · rw [List.take_append_drop]
        rfl
      · have positive := length_writtenDigits_pos position
        rw [List.length_drop]
        unfold writtenPoint
        omega
    rw [Option.getD_some, isShortest, Number.position_shortest]

/-- The JSON layout of a position is a literal of it. -/
theorem exists_denotes :
    ∃ whole fraction exponent, Denotes position whole fraction exponent ∧
      Layout.json.writePosition position =
        whole ++ (fractionText fraction ++ exponentText exponent) := by
  have written : Layout.json.writePosition position =
      if Layout.json.positional (writtenPoint position) then
        Layout.json.writePositional (writtenDigits position) (writtenPoint position)
      else Number.writeScientific (writtenDigits position) (writtenPoint position) := rfl
  rw [written]
  by_cases isPositional : -5 < writtenPoint position ∧ writtenPoint position ≤ 16
  · have chosen : Layout.json.positional (writtenPoint position) = true :=
      decide_eq_true isPositional
    have bounded : (Number.shortest .even position).exponent ≤ 400 := by
      unfold writtenPoint at isPositional
      omega
    obtain ⟨whole, fraction, parted, marked, isText⟩ :=
      Number.exists_parted Layout.json (@rfl _ (writtenDigits position))
        (@rfl _ (writtenPoint position)) bounded Number.exponent_of_no_digits
    refine ⟨whole, fraction, none, denotes_parted position parted (marked rfl), ?_⟩
    rw [if_pos chosen, isText, exponentText, List.append_nil, fractionText]
  · have notChosen : ¬Layout.json.positional (writtenPoint position) = true := by
      simpa [Layout.json] using isPositional
    rw [if_neg notChosen]
    refine ⟨_, _, _, denotes_scientific position, ?_⟩
    unfold Number.writeScientific fractionText exponentText
    simp only [List.append_assoc]

end

/-! ## Reading back -/

theorem head_isDigit_of_isWholePart (tail : List Char) {whole : List Char}
    (wholeDigits : ∀ character ∈ whole, isDigit character = true)
    (isWhole : isWholePart whole = true) :
    ∃ first others, whole ++ tail = first :: others ∧ isDigit first = true := by
  cases whole with
  | nil => cases isWhole
  | cons first others =>
      exact ⟨first, others ++ tail, rfl, wholeDigits first (List.mem_cons_self ..)⟩

section

variable [NumeralReader]

theorem number?_of_digit {first : Char} (others : List Char) (digit : isDigit first = true) :
    number? (first :: others) = unsigned? false (first :: others) := by
  unfold number?
  split
  next same =>
    have isMinus : first = '-' := (List.cons.inj same).1
    rw [isMinus] at digit
    exact absurd digit (by decide)
  next => rfl

/-- The parts of a literal that is written are handed to the reader of numerals. -/
theorem number?_write (negative : Bool) {position : Nat} {whole fraction : List Char}
    {exponent : Option Int} (denotes : Denotes position whole fraction exponent)
    (written : Layout.json.writePosition position =
      whole ++ (fractionText fraction ++ exponentText exponent))
    (ends : EndsNumber rest) :
    number? (Layout.json.write negative position ++ rest) =
      let number := NumeralReader.number negative whole fraction (exponent.getD 0)
      if number.isFinite then some (decimal number, rest) else none := by
  have unsigned : unsigned? negative (Layout.json.writePosition position ++ rest) =
      let number := NumeralReader.number negative whole fraction (exponent.getD 0)
      if number.isFinite then some (decimal number, rest) else none := by
    rw [written, List.append_assoc, List.append_assoc, unsigned?_parts negative _ _
      denotes.wholeDigits denotes.isWhole denotes.fractionDigits ends, denotes.isDouble,
      if_neg Bool.false_ne_true]
  cases negative with
  | true => exact unsigned
  | false =>
      show number? (Layout.json.writePosition position ++ rest) = _
      obtain ⟨first, others, shape, digit⟩ := head_isDigit_of_isWholePart
        (fractionText fraction ++ exponentText exponent ++ rest) denotes.wholeDigits
        denotes.isWhole
      have sameShape : Layout.json.writePosition position ++ rest = first :: others := by
        rw [written, ← shape, List.append_assoc]
      rw [sameShape, number?_of_digit others digit, ← sameShape]
      exact unsigned

/-- Whether the reader of numerals takes the literal that is written for a finite double as that
double. A reader that rounds once does. One that rounds in steps misses some doubles, of which
`3e23` is one. -/
class ReadsBack : Prop where
  number?_decimalText : ∀ number : Number, number.isFinite = true →
    number? (decimalText number) = some (decimal number, [])

/-- What follows a literal makes no difference to its being read back. -/
theorem number?_decimalText [ReadsBack] (negative : Bool) (position : Fin Number.gridSize)
    (ends : EndsNumber rest) :
    number? (decimalText (.finite negative position) ++ rest) =
      some (decimal (.finite negative position), rest) := by
  obtain ⟨whole, fraction, exponent, denotes, written⟩ := exists_denotes position.val
  have alone := ReadsBack.number?_decimalText (.finite negative position) rfl
  rw [← List.append_nil (decimalText _)] at alone
  have isNumber := (number?_write negative denotes written endsNumber_nil).symm.trans alone
  simp only at isNumber
  have number : NumeralReader.number negative whole fraction (exponent.getD 0) =
      .finite negative position := by
    split at isNumber
    next => exact Json.decimal.inj (Prod.mk.inj (Option.some.inj isNumber)).1
    next => cases isNumber
  exact (number?_write negative denotes written ends).trans (by rw [number]; rfl)

end

/-- Rounding the decimal that is written reads it back. -/
instance readsBack_nearest : @ReadsBack .nearest := by
  let _ := NumeralReader.nearest
  refine ⟨fun number finite => ?_⟩
  cases number with
  | finite negative position =>
      obtain ⟨whole, fraction, exponent, denotes, written⟩ := exists_denotes position.val
      have isNumber : NumeralReader.number negative whole fraction (exponent.getD 0) =
          .finite negative position := by
        show Number.ofDecimal negative (Decimal.ofParts whole fraction (exponent.getD 0)) = _
        rw [Number.ofDecimal, denotes.reads, Number.atPosition, dif_pos position.isLt]
      rw [← List.append_nil (decimalText _)]
      exact (number?_write negative denotes written endsNumber_nil).trans (by rw [isNumber]; rfl)
  | _ => cases finite

/-- The integers that are read as integers. -/
def isWordSized (value : Int) : Bool := decide (-(2 ^ 63) ≤ value ∧ value < 2 ^ 64)

/-- An integer of at most 64 bits is read back from its digits. -/
theorem number?_integerText [NumeralReader] {value : Int} (sized : isWordSized value = true)
    (ends : EndsNumber rest) :
    number? (Number.integerText value ++ rest) = some (integer value, rest) := by
  have bounds : -(2 ^ 63) ≤ value ∧ value < 2 ^ 64 := of_decide_eq_true sized
  have digits : ∀ character ∈ Nat.toDigits 10 value.natAbs, isDigit character = true :=
    fun _ member => isDigit_of_mem_toDigits member
  have isWhole := isWholePart_toDigits value.natAbs
  have unsigned : ∀ negative, unsigned? negative (Nat.toDigits 10 value.natAbs ++ rest) =
      (ofIntegerLiteral? negative (Nat.toDigits 10 value.natAbs)).map fun json => (json, rest) :=
    fun negative => unsigned?_parts negative [] none digits isWhole (by simp) ends
  unfold Number.integerText
  by_cases negative : value < 0
  · rw [if_pos negative]
    show unsigned? true (Nat.toDigits 10 value.natAbs ++ rest) = _
    rw [unsigned, ofIntegerLiteral?, if_pos rfl, Nat.ofDigitChars_ten_toDigits, Nat.pow_eq,
      if_pos (by omega), Int.ofNat_natAbs_of_nonpos (by omega), Int.neg_neg]
    rfl
  · rw [if_neg negative]
    obtain ⟨first, others, shape, digit⟩ :=
      head_isDigit_of_isWholePart rest digits isWhole
    rw [shape, number?_of_digit others digit, ← shape, unsigned, ofIntegerLiteral?,
      if_neg Bool.false_ne_true, Nat.ofDigitChars_ten_toDigits, Nat.pow_eq, if_pos (by omega),
      Int.natAbs_of_nonneg (by omega)]
    rfl

end DocStore.Json
