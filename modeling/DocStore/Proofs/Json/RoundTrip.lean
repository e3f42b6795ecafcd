import DocStore.Proofs.Json.Numerals
import DocStore.Proofs.SortedMap.Reading

/-!
Contract: text is read back as the data it was written for.

Data is faithful when its objects are in key order, its integers fit 64 bits and
its doubles are finite. The text of faithful data is read back whole, with any
fuel from its length on and as many levels as it is deep, whatever follows it, as
long as that does not extend a number. Which blanks stand between the tokens makes
no difference, so this is said once for all spacings; the pretty and the compact
form are two of them.

Owns: `Json.isFaithful`, `Json.Spacing`, and reading back of quoted text and of data.
-/

namespace DocStore.Json

/-! ## Quoted text -/

theorem hexValue?_hexDigit : ∀ value < 16, hexValue? (hexDigit value) = some value := by
  decide

theorem unitCharacter?_of_small {character : Char} (small : character.toNat < 0x20)
    (rest : List Char) :
    unitCharacter? ('0' :: '0' :: hexDigit (character.toNat / 16) ::
      hexDigit (character.toNat % 16) :: rest) = some (character, rest) := by
  have high := hexValue?_hexDigit (character.toNat / 16) (by omega)
  have low := hexValue?_hexDigit (character.toNat % 16) (by omega)
  have zero : hexValue? '0' = some 0 := by decide
  have value : ((0 * 16 + 0) * 16 + character.toNat / 16) * 16 + character.toNat % 16 =
      character.toNat := by
    omega
  have read : unit? ('0' :: '0' :: hexDigit (character.toNat / 16) ::
      hexDigit (character.toNat % 16) :: rest) = some (character.toNat, rest) := by
    unfold unit?
    simp only [zero, high, low, Option.bind_eq_bind, Option.bind_some, value]
  unfold unitCharacter?
  simp only [read, Option.bind_eq_bind, Option.bind_some]
  rw [if_neg (by omega), if_neg (by omega), Char.ofNat_toNat]

/-- A character is written as itself, or as an escape that is read back as it. -/
theorem escaped_cases (character : Char) :
    (escaped character = [character] ∧ character ≠ '"' ∧ character ≠ '\\' ∧
        ¬character.toNat < 0x20) ∨
      ∃ tail, escaped character = '\\' :: tail ∧
        ∀ rest, escapeCharacter? (tail ++ rest) = some (character, rest) := by
  unfold escaped
  split
  next isQuote => exact .inr ⟨_, rfl, fun rest => by rw [isQuote]; rfl⟩
  next notQuote =>
    split
    next isBackslash => exact .inr ⟨_, rfl, fun rest => by rw [isBackslash]; rfl⟩
    next notBackslash =>
      split
      next printable => exact .inl ⟨rfl, notQuote, notBackslash, by omega⟩
      next small =>
        refine .inr ?_
        split
        next isEscape => exact ⟨_, rfl, fun rest => by rw [isEscape]; rfl⟩
        split
        next isEscape => exact ⟨_, rfl, fun rest => by rw [isEscape]; rfl⟩
        split
        next isEscape => exact ⟨_, rfl, fun rest => by rw [isEscape]; rfl⟩
        split
        next isEscape => exact ⟨_, rfl, fun rest => by rw [isEscape]; rfl⟩
        split
        next isEscape => exact ⟨_, rfl, fun rest => by rw [isEscape]; rfl⟩
        exact ⟨_, rfl, unitCharacter?_of_small (by omega)⟩

/-- One written character is read back, at the cost of one unit of fuel. -/
theorem unquote?_escaped (fuel : Nat) (character : Char) (rest : List Char) :
    unquote? (fuel + 1) (escaped character ++ rest) =
      (unquote? fuel rest).map fun read => (character :: read.1, read.2) := by
  rcases escaped_cases character with ⟨plain, notQuote, notBackslash, printable⟩ |
    ⟨tail, escape, isEscape⟩
  · rw [plain, List.singleton_append, unquote?, if_neg printable]
    · cases unquote? fuel rest <;> rfl
    · exact notQuote
    · exact notBackslash
  · rw [escape, List.cons_append, unquote?, isEscape]
    simp only [Option.bind_eq_bind, Option.bind_some]
    cases unquote? fuel rest <;> rfl

theorem unquote?_flatMap_escaped (characters : List Char) {fuel : Nat}
    (enough : characters.length < fuel) (rest : List Char) :
    unquote? fuel (characters.flatMap escaped ++ '"' :: rest) = some (characters, rest) := by
  induction characters generalizing fuel with
  | nil =>
      obtain ⟨left, isLeft⟩ : ∃ left, fuel = left + 1 := ⟨fuel - 1, by omega⟩
      rw [isLeft]
      rfl
  | cons character others inductionHypothesis =>
      rw [List.length_cons] at enough
      obtain ⟨left, isLeft⟩ : ∃ left, fuel = left + 1 := ⟨fuel - 1, by omega⟩
      rw [isLeft, List.flatMap_cons, List.append_assoc, unquote?_escaped,
        inductionHypothesis (by omega)]
      rfl

/-- A quoted text ends at its own closing mark, whatever characters it holds. -/
theorem quoted_append_inj {left right : String} {leftRest rightRest : List Char}
    (same : quoted left ++ leftRest = quoted right ++ rightRest) :
    left = right ∧ leftRest = rightRest := by
  have written : left.toList.flatMap escaped ++ '"' :: leftRest =
      right.toList.flatMap escaped ++ '"' :: rightRest := by
    simpa [quoted] using same
  obtain ⟨fuel, leftEnough, rightEnough⟩ : ∃ fuel,
      left.toList.length < fuel ∧ right.toList.length < fuel :=
    ⟨left.toList.length + right.toList.length + 1, by omega, by omega⟩
  have reads := unquote?_flatMap_escaped left.toList leftEnough leftRest
  rw [written, unquote?_flatMap_escaped _ rightEnough] at reads
  obtain ⟨sameText, sameRest⟩ := Prod.mk.inj (Option.some.inj reads)
  exact ⟨String.toList_inj.1 sameText.symm, sameRest.symm⟩

theorem length_le_length_flatMap_escaped (characters : List Char) :
    characters.length ≤ (characters.flatMap escaped).length := by
  induction characters with
  | nil => exact Nat.le_refl 0
  | cons character others inductionHypothesis =>
      have present : 0 < (escaped character).length := by
        rcases escaped_cases character with ⟨plain, _⟩ | ⟨tail, escape, _⟩
        · rw [plain]
          exact Nat.one_pos
        · rw [escape]
          exact Nat.succ_pos _
      rw [List.flatMap_cons, List.length_append, List.length_cons]
      omega

/-! ## Gaps -/

theorem skipGap_append {gap : List Char} (isGap : ∀ character ∈ gap, isGap character = true)
    (rest : List Char) : skipGap (gap ++ rest) = skipGap rest :=
  List.dropWhile_append_of_pos isGap

theorem isGap_of_mem_newLine {depth : Nat} {character : Char} (member : character ∈ newLine depth) :
    isGap character = true := by
  rcases List.mem_cons.1 member with isLine | isSpace
  · rw [isLine]
    rfl
  · rw [List.eq_of_mem_replicate isSpace]
    rfl

theorem skipGap_cons_of_not {first : Char} (notGap : isGap first = false) (rest : List Char) :
    skipGap (first :: rest) = first :: rest :=
  List.dropWhile_cons_of_neg (by simp [notGap])

section

variable [NumeralReader]

/-- A value is read past the gap before it. -/
theorem value?_congr (fuel levels : Nat) {left right : List Char}
    (same : skipGap left = skipGap right) : value? fuel levels left = value? fuel levels right := by
  cases fuel with
  | zero => rfl
  | succ fuel => rw [value?, value?, same]

/-! ## The reader's cases -/

theorem value?_quote (fuel levels : Nat) (input : List Char) :
    value? (fuel + 1) levels ('"' :: input) =
      (unquote? fuel input).map fun read => (string (String.ofList read.1), read.2) := by
  rw [value?, skipGap_cons_of_not rfl]
  simp only [Option.bind_eq_bind]
  cases unquote? fuel input <;> rfl

theorem value?_bracket (fuel levels : Nat) {input : List Char}
    (notClosed : ∀ remaining, skipGap input ≠ ']' :: remaining) :
    value? (fuel + 1) (levels + 1) ('[' :: input) =
      (items? fuel levels input).map fun read => (array read.1, read.2) := by
  rw [value?, skipGap_cons_of_not rfl]
  simp only [Option.bind_eq_bind]
  cases items? fuel levels input <;> rfl

theorem value?_brace (fuel levels : Nat) {input : List Char}
    (notClosed : ∀ remaining, skipGap input ≠ '\x7d' :: remaining) :
    value? (fuel + 1) (levels + 1) ('\x7b' :: input) =
      (members? fuel levels input).map fun read => (object (Entries.ofList read.1), read.2) := by
  rw [value?, skipGap_cons_of_not rfl]
  simp only [Option.bind_eq_bind]
  cases members? fuel levels input <;> rfl

theorem value?_number (fuel levels : Nat) {first : Char} (others : List Char)
    (begins : Number.isDigit first = true ∨ first = '-') :
    value? (fuel + 1) levels (first :: others) = number? (first :: others) := by
  have different : ∀ character, Number.isDigit character = false → character ≠ '-' →
      first ≠ character := by
    intro character notDigit notMinus same
    rcases begins with digit | minus
    · rw [same, notDigit] at digit
      cases digit
    · exact notMinus (same.symm.trans minus)
  have notGap : isGap first = false := by
    unfold isGap
    simp [different ' ' rfl, different '\n' rfl, different '\t' rfl, different '\r' rfl]
  rw [value?, skipGap_cons_of_not notGap]
  split
  next same => exact absurd (List.cons.inj same).1 (different 'n' rfl (by decide))
  next same => exact absurd (List.cons.inj same).1 (different 't' rfl (by decide))
  next same => exact absurd (List.cons.inj same).1 (different 'f' rfl (by decide))
  next same => exact absurd (List.cons.inj same).1 (different '"' rfl (by decide))
  next same => exact absurd (List.cons.inj same).1 (different '[' rfl (by decide))
  next same => exact absurd (List.cons.inj same).1 (different '\x7b' rfl (by decide))
  next => rfl

end

/-! ## Faithful data -/

mutual

/-- Whether data is what its text is read as. -/
def isFaithful : Json → Bool
  | integer value => isWordSized value
  | decimal value => value.isFinite
  | array items => itemsFaithful items
  | object members => decide (Entries.Sorted members) && membersFaithful members
  | _ => true

def itemsFaithful : List Json → Bool
  | [] => true
  | item :: rest => item.isFaithful && itemsFaithful rest

def membersFaithful : List (String × Json) → Bool
  | [] => true
  | (_, item) :: rest => item.isFaithful && membersFaithful rest

end

/-- A text that a number may begin. -/
def BeginsNumber (text : List Char) : Prop :=
  ∃ first others, text = first :: others ∧ (Number.isDigit first = true ∨ first = '-')

theorem beginsNumber_integerText (value : Int) : BeginsNumber (Number.integerText value) := by
  unfold Number.integerText
  split
  · exact ⟨'-', _, rfl, .inr rfl⟩
  · cases shape : Nat.toDigits 10 value.natAbs with
    | nil => exact absurd shape Nat.toDigits_ne_nil
    | cons first others =>
        have member : first ∈ Nat.toDigits 10 value.natAbs := by
          rw [shape]
          exact List.mem_cons_self ..
        exact ⟨first, others, rfl, .inl (Number.isDigit_of_mem_toDigits member)⟩

theorem beginsNumber_decimalText (negative : Bool) (position : Fin Number.gridSize) :
    BeginsNumber (decimalText (.finite negative position)) := by
  cases negative with
  | true => exact ⟨'-', _, rfl, .inr rfl⟩
  | false =>
      obtain ⟨whole, fraction, exponent, denotes, written⟩ := exists_denotes position.val
      obtain ⟨first, others, shape, digit⟩ := head_isDigit_of_isWholePart
        (fractionText fraction ++ exponentText exponent) denotes.wholeDigits denotes.isWhole
      exact ⟨first, others, written.trans shape, .inl digit⟩

/-- The characters that no value begins with. -/
def isStray (character : Char) : Bool :=
  isGap character || character == ']' || character == '\x7d'

theorem isStray_of_beginsNumber {first : Char}
    (begins : Number.isDigit first = true ∨ first = '-') : isStray first = false := by
  have digitNotStray : ∀ character, isStray character = true →
      Number.isDigit character = false ∧ character ≠ '-' := by
    intro character stray
    simp only [isStray, isGap, Bool.or_eq_true, beq_iff_eq, decide_eq_true_eq] at stray
    rcases stray with ((((stray | stray) | stray) | stray) | stray) | stray
    all_goals
      subst character
      exact ⟨rfl, by decide⟩
  rw [Bool.eq_false_iff]
  intro stray
  obtain ⟨notDigit, notMinus⟩ := digitNotStray first stray
  rcases begins with digit | minus
  · rw [notDigit] at digit
    cases digit
  · exact notMinus minus

/-- A gap or a closing mark does not extend a number. -/
theorem endsNumber_of_isStray {character : Char} (stray : isStray character = true)
    (rest : List Char) : EndsNumber (character :: rest) := by
  intro first isHead
  cases Option.some.inj isHead
  simp only [isStray, isGap, Bool.or_eq_true, beq_iff_eq, decide_eq_true_eq] at stray
  rcases stray with ((((stray | stray) | stray) | stray) | stray) | stray
  all_goals
    subst character
    exact ⟨rfl, by decide, by decide, by decide⟩

theorem endsNumber_comma (rest : List Char) : EndsNumber (',' :: rest) := by
  intro first isHead
  cases Option.some.inj isHead
  exact ⟨rfl, by decide, by decide, by decide⟩

theorem length_quoted (text : String) : text.toList.length + 2 ≤ (quoted text).length := by
  have escapes := length_le_length_flatMap_escaped text.toList
  unfold quoted
  rw [List.length_cons, List.length_append, List.length_singleton]
  omega

/-! ## Spacings -/

/-- The blanks between the tokens of containers: before each item or member and before the closing
mark, by the depth at which these stand, and behind a colon. -/
structure Spacing where
  line : Nat → List Char
  afterColon : List Char
  isGap_line : ∀ depth, ∀ character ∈ line depth, isGap character = true
  isGap_afterColon : ∀ character ∈ afterColon, isGap character = true

namespace Spacing

/-- Every item and member on a line of its own. -/
def pretty : Spacing where
  line := newLine
  afterColon := [' ']
  isGap_line := fun _ _ member => isGap_of_mem_newLine member
  isGap_afterColon := List.forall_mem_singleton.2 rfl

/-- No blanks at all. -/
def compact : Spacing where
  line := fun _ => []
  afterColon := []
  isGap_line := fun _ _ member => absurd member List.not_mem_nil
  isGap_afterColon := fun _ member => absurd member List.not_mem_nil

variable (spacing : Spacing)

mutual

/-- The text of data that stands at a nesting depth. -/
def chars (depth : Nat) : Json → List Char
  | array (item :: rest) =>
      '[' :: (spacing.line (depth + 1) ++ (chars (depth + 1) item ++ items depth rest))
  | object ((key, item) :: rest) =>
      '\x7b' :: (spacing.line (depth + 1) ++ (quoted key ++
        ':' :: (spacing.afterColon ++ (chars (depth + 1) item ++ members depth rest))))
  | scalarOrEmpty => scalarOrEmpty.compactChars

/-- The items after the first, and the closing bracket. -/
def items (depth : Nat) : List Json → List Char
  | [] => spacing.line depth ++ [']']
  | item :: rest =>
      ',' :: (spacing.line (depth + 1) ++ (chars (depth + 1) item ++ items depth rest))

/-- The members after the first, and the closing brace. -/
def members (depth : Nat) : List (String × Json) → List Char
  | [] => spacing.line depth ++ ['\x7d']
  | (key, item) :: rest =>
      ',' :: (spacing.line (depth + 1) ++ (quoted key ++
        ':' :: (spacing.afterColon ++ (chars (depth + 1) item ++ members depth rest))))

end

mutual

theorem chars_pretty : ∀ (depth : Nat) (json : Json),
    pretty.chars depth json = json.prettyChars depth
  | _, .null | _, .bool _ | _, .integer _ | _, .decimal _ | _, .string _ | _, .array []
  | _, .object [] => rfl
  | depth, .array (item :: rest) => by
      rw [chars, prettyChars, chars_pretty (depth + 1) item, items_pretty depth rest]
      rfl
  | depth, .object ((key, item) :: rest) => by
      rw [chars, prettyChars, chars_pretty (depth + 1) item, members_pretty depth rest]
      rfl

theorem items_pretty : ∀ (depth : Nat) (others : List Json),
    pretty.items depth others = prettyItems depth others
  | _, [] => rfl
  | depth, item :: rest => by
      rw [items, prettyItems, chars_pretty (depth + 1) item, items_pretty depth rest]
      rfl

theorem members_pretty : ∀ (depth : Nat) (others : List (String × Json)),
    pretty.members depth others = prettyMembers depth others
  | _, [] => rfl
  | depth, (key, item) :: rest => by
      rw [members, prettyMembers, chars_pretty (depth + 1) item, members_pretty depth rest]
      rfl

end

mutual

theorem chars_compact : ∀ (depth : Nat) (json : Json),
    compact.chars depth json = json.compactChars
  | _, .null | _, .bool _ | _, .integer _ | _, .decimal _ | _, .string _ | _, .array []
  | _, .object [] => rfl
  | depth, .array (item :: rest) => by
      rw [chars, compactChars, chars_compact (depth + 1) item, items_compact depth rest]
      rfl
  | depth, .object ((key, item) :: rest) => by
      rw [chars, compactChars, chars_compact (depth + 1) item, members_compact depth rest]
      rfl

theorem items_compact : ∀ (depth : Nat) (others : List Json),
    compact.items depth others = compactItems others
  | _, [] => rfl
  | depth, item :: rest => by
      rw [items, compactItems, chars_compact (depth + 1) item, items_compact depth rest]
      rfl

theorem members_compact : ∀ (depth : Nat) (others : List (String × Json)),
    compact.members depth others = compactMembers others
  | _, [] => rfl
  | depth, (key, item) :: rest => by
      rw [members, compactMembers, chars_compact (depth + 1) item, members_compact depth rest]
      rfl

end

theorem skipGap_line (depth : Nat) (rest : List Char) :
    skipGap (spacing.line depth ++ rest) = skipGap rest :=
  skipGap_append (spacing.isGap_line depth) rest

/-- The text of faithful data begins with a character that is neither a gap nor a closing one. -/
theorem chars_begins (depth : Nat) {json : Json} (faithful : json.isFaithful = true) :
    ∃ first others, spacing.chars depth json = first :: others ∧ isStray first = false := by
  cases json with
  | null => exact ⟨'n', _, rfl, rfl⟩
  | bool value => cases value <;> exact ⟨_, _, rfl, rfl⟩
  | integer value =>
      obtain ⟨first, others, shape, begins⟩ := beginsNumber_integerText value
      exact ⟨first, others, shape, isStray_of_beginsNumber begins⟩
  | decimal value =>
      cases value with
      | finite negative position =>
          obtain ⟨first, others, shape, begins⟩ := beginsNumber_decimalText negative position
          exact ⟨first, others, shape, isStray_of_beginsNumber begins⟩
      | _ => cases faithful
  | string text => exact ⟨'"', _, rfl, rfl⟩
  | array items => cases items <;> exact ⟨'[', _, rfl, rfl⟩
  | object members =>
      cases members with
      | nil => exact ⟨'\x7b', _, rfl, rfl⟩
      | cons member others => exact ⟨'\x7b', _, rfl, rfl⟩

theorem skipGap_chars (depth : Nat) {json : Json} (faithful : json.isFaithful = true)
    (rest : List Char) :
    skipGap (spacing.chars depth json ++ rest) = spacing.chars depth json ++ rest := by
  obtain ⟨first, others, shape, notStray⟩ := spacing.chars_begins depth faithful
  have notGap : isGap first = false := by
    cases gap : isGap first with
    | false => rfl
    | true =>
        rw [isStray, gap] at notStray
        cases notStray
  rw [shape]
  exact skipGap_cons_of_not notGap (others ++ rest)

/-! ## Reading back -/

/-- The text of items with the blanks before them, and the closing bracket. -/
def itemLines (depth : Nat) : List Json → List Char
  | [] => []
  | item :: rest =>
      spacing.line (depth + 1) ++ (spacing.chars (depth + 1) item ++ spacing.items depth rest)

/-- The text of members with the blanks before them, and the closing brace. -/
def memberLines (depth : Nat) : List (String × Json) → List Char
  | [] => []
  | (key, item) :: rest =>
      spacing.line (depth + 1) ++ (quoted key ++ ':' :: (spacing.afterColon ++
        (spacing.chars (depth + 1) item ++ spacing.members depth rest)))

/-- Blanks and a closing mark do not extend a number. -/
theorem endsNumber_line (depth : Nat) {mark : Char} (stray : isStray mark = true)
    (rest : List Char) : EndsNumber (spacing.line depth ++ mark :: rest) := by
  cases blanks : spacing.line depth with
  | nil => exact endsNumber_of_isStray stray rest
  | cons blank others =>
      have isBlank := spacing.isGap_line depth blank (by rw [blanks]; exact List.mem_cons_self ..)
      exact endsNumber_of_isStray (by rw [isStray, isBlank]; rfl) (others ++ mark :: rest)

theorem endsNumber_items (depth : Nat) (others : List Json) (rest : List Char) :
    EndsNumber (spacing.items depth others ++ rest) := by
  cases others with
  | nil =>
      rw [items, List.append_assoc]
      exact spacing.endsNumber_line depth rfl rest
  | cons item others => exact endsNumber_comma _

theorem endsNumber_members (depth : Nat) (others : List (String × Json)) (rest : List Char) :
    EndsNumber (spacing.members depth others ++ rest) := by
  cases others with
  | nil =>
      rw [members, List.append_assoc]
      exact spacing.endsNumber_line depth rfl rest
  | cons member others => exact endsNumber_comma _

theorem length_items_pos (depth : Nat) (others : List Json) :
    0 < (spacing.items depth others).length := by
  cases others with
  | nil => simp [items]
  | cons item others => exact Nat.succ_pos _

theorem skipGap_itemLines_ne (depth : Nat) {item : Json} (faithful : item.isFaithful = true)
    (others : List Json) (rest : List Char) (remaining : List Char) :
    skipGap (spacing.itemLines depth (item :: others) ++ rest) ≠ ']' :: remaining := by
  obtain ⟨first, more, shape, notStray⟩ := spacing.chars_begins (depth + 1) faithful
  rw [itemLines, List.append_assoc, List.append_assoc, skipGap_line,
    spacing.skipGap_chars _ faithful, shape]
  intro same
  have isBracket : first = ']' := (List.cons.inj same).1
  rw [isBracket] at notStray
  cases notStray

theorem skipGap_memberLines_ne (depth : Nat) (key : String) (item : Json)
    (others : List (String × Json)) (rest remaining : List Char) :
    skipGap (spacing.memberLines depth ((key, item) :: others) ++ rest) ≠ '\x7d' :: remaining := by
  rw [memberLines, List.append_assoc, skipGap_line]
  intro same
  exact absurd (List.cons.inj same).1 (by decide)

section

variable [NumeralReader]

mutual

/-- Faithful data is read back from its text, whatever ends the number it may be. -/
theorem value?_chars [ReadsBack] : ∀ (json : Json) (depth fuel levels : Nat) (rest : List Char),
    json.isFaithful = true → (spacing.chars depth json).length ≤ fuel → json.depth ≤ levels →
      EndsNumber rest →
        value? fuel levels (spacing.chars depth json ++ rest) = some (json, rest)
  | .null, _, fuel + 1, _, _, _, _, _, _ => rfl
  | .bool true, _, fuel + 1, _, _, _, _, _, _ => rfl
  | .bool false, _, fuel + 1, _, _, _, _, _, _ => rfl
  | .integer value, _, fuel + 1, levels, rest, faithful, _, _, ends => by
      obtain ⟨first, others, shape, begins⟩ := beginsNumber_integerText value
      show value? (fuel + 1) levels (Number.integerText value ++ rest) = _
      rw [shape, List.cons_append, value?_number fuel levels _ begins, ← List.cons_append, ← shape]
      exact number?_integerText faithful ends
  | .decimal (.finite negative position), _, fuel + 1, levels, rest, _, _, _, ends => by
      obtain ⟨first, others, shape, begins⟩ := beginsNumber_decimalText negative position
      show value? (fuel + 1) levels (decimalText (.finite negative position) ++ rest) = _
      rw [shape, List.cons_append, value?_number fuel levels _ begins, ← List.cons_append, ← shape]
      exact number?_decimalText negative position ends
  | .string text, depth, fuel + 1, levels, rest, _, enough, _, _ => by
      have written : spacing.chars depth (.string text) = quoted text := rfl
      have long := length_quoted text
      rw [written] at enough ⊢
      rw [quoted, List.cons_append, List.append_assoc, value?_quote]
      rw [List.singleton_append, unquote?_flatMap_escaped _ (by omega), Option.map_some,
        String.ofList_toList]
  | .array [], _, fuel + 1, levels + 1, _, _, _, _, _ => rfl
  | .object [], _, fuel + 1, levels + 1, _, _, _, _, _ => rfl
  | .array (item :: others), depth, fuel + 1, levels + 1, rest, faithful, enough, deep, _ => by
      have written : spacing.chars depth (.array (item :: others)) =
          '[' :: spacing.itemLines depth (item :: others) := rfl
      rw [isFaithful] at faithful
      rw [written] at enough ⊢
      rw [Json.depth] at deep
      rw [List.cons_append, value?_bracket fuel levels]
      · rw [items?_itemLines (item :: others) depth fuel levels rest (List.cons_ne_nil _ _) faithful
          (Nat.le_of_succ_le_succ enough) (by omega)]
        rfl
      · rw [itemsFaithful, Bool.and_eq_true] at faithful
        exact spacing.skipGap_itemLines_ne depth faithful.1 others rest
  | .object ((key, item) :: others), depth, fuel + 1, levels + 1, rest, faithful, enough, deep,
      _ => by
      have written : spacing.chars depth (.object ((key, item) :: others)) =
          '\x7b' :: spacing.memberLines depth ((key, item) :: others) := rfl
      rw [isFaithful, Bool.and_eq_true, decide_eq_true_iff] at faithful
      rw [written] at enough ⊢
      rw [Json.depth] at deep
      rw [List.cons_append, value?_brace fuel levels]
      · rw [members?_memberLines ((key, item) :: others) depth fuel levels rest
          (List.cons_ne_nil _ _) faithful.2 (Nat.le_of_succ_le_succ enough) (by omega)]
        rw [Option.map_some, Entries.ofList_of_sorted faithful.1]
      · exact spacing.skipGap_memberLines_ne depth key item others rest
  | .integer value, _, 0, _, _, _, enough, _, _ => by
      obtain ⟨first, others, shape, _⟩ := beginsNumber_integerText value
      have present : (first :: others).length ≤ 0 := shape ▸ enough
      exact absurd present (Nat.not_succ_le_zero _)
  | .decimal (.finite negative position), _, 0, _, _, _, enough, _, _ => by
      obtain ⟨first, others, shape, _⟩ := beginsNumber_decimalText negative position
      have present : (first :: others).length ≤ 0 := shape ▸ enough
      exact absurd present (Nat.not_succ_le_zero _)

theorem items?_itemLines [ReadsBack] : ∀ (items : List Json) (depth fuel levels : Nat)
    (rest : List Char), items ≠ [] → itemsFaithful items = true →
      (spacing.itemLines depth items).length ≤ fuel → itemsDepth items ≤ levels →
        items? fuel levels (spacing.itemLines depth items ++ rest) = some (items, rest)
  | [], _, _, _, _, nonempty, _, _, _ => absurd rfl nonempty
  | item :: others, depth, fuel, levels, rest, _, faithful, enough, deep => by
      rw [itemsFaithful, Bool.and_eq_true] at faithful
      rw [itemsDepth] at deep
      have lengths : (spacing.line (depth + 1)).length +
          ((spacing.chars (depth + 1) item).length + (spacing.items depth others).length) ≤
            fuel := by
        rw [itemLines, List.length_append, List.length_append] at enough
        exact enough
      have closes := spacing.length_items_pos depth others
      obtain ⟨left, isLeft⟩ : ∃ left, fuel = left + 1 := ⟨fuel - 1, by omega⟩
      rw [isLeft, items?, itemLines, List.append_assoc, List.append_assoc,
        value?_congr left levels (spacing.skipGap_line (depth + 1) _),
        value?_chars item (depth + 1) left levels _ faithful.1 (by omega) (by omega)
          (spacing.endsNumber_items depth others rest)]
      simp only [Option.bind_eq_bind, Option.bind_some]
      cases others with
      | nil =>
          rw [items, List.append_assoc, skipGap_line]
          rfl
      | cons next more =>
          have continues : spacing.items depth (next :: more) =
              ',' :: spacing.itemLines depth (next :: more) := rfl
          rw [continues, List.length_cons] at lengths
          rw [continues, List.cons_append, skipGap_cons_of_not rfl]
          simp only
          rw [items?_itemLines (next :: more) depth left levels rest (List.cons_ne_nil _ _)
            faithful.2 (by omega) (by omega)]
          rfl

theorem members?_memberLines [ReadsBack] : ∀ (members : List (String × Json))
    (depth fuel levels : Nat) (rest : List Char), members ≠ [] → membersFaithful members = true →
      (spacing.memberLines depth members).length ≤ fuel → membersDepth members ≤ levels →
        members? fuel levels (spacing.memberLines depth members ++ rest) = some (members, rest)
  | [], _, _, _, _, nonempty, _, _, _ => absurd rfl nonempty
  | (key, item) :: others, depth, fuel, levels, rest, _, faithful, enough, deep => by
      rw [membersFaithful, Bool.and_eq_true] at faithful
      rw [membersDepth] at deep
      have lengths : (spacing.line (depth + 1)).length + ((quoted key).length +
          (spacing.afterColon.length + ((spacing.chars (depth + 1) item).length +
            (spacing.members depth others).length) + 1)) ≤ fuel := by
        rw [memberLines, List.length_append, List.length_append, List.length_cons,
          List.length_append, List.length_append] at enough
        exact enough
      have keyLength := length_quoted key
      obtain ⟨left, isLeft⟩ : ∃ left, fuel = left + 1 := ⟨fuel - 1, by omega⟩
      have afterLine : skipGap (spacing.memberLines depth ((key, item) :: others) ++ rest) =
          '"' :: (key.toList.flatMap escaped ++ '"' :: ':' :: (spacing.afterColon ++
            (spacing.chars (depth + 1) item ++ (spacing.members depth others ++ rest)))) := by
        rw [memberLines, List.append_assoc, skipGap_line, quoted, List.cons_append,
          List.cons_append, List.append_assoc, List.append_assoc, skipGap_cons_of_not rfl]
        simp only [List.cons_append, List.nil_append, List.append_assoc]
      rw [isLeft, members?, afterLine]
      simp only
      rw [unquote?_flatMap_escaped _ (by omega)]
      simp only [Option.bind_eq_bind, Option.bind_some, String.ofList_toList]
      rw [skipGap_cons_of_not rfl]
      simp only
      rw [value?_congr left levels (skipGap_append spacing.isGap_afterColon _),
        value?_chars item (depth + 1) left levels _ faithful.1 (by omega) (by omega)
          (spacing.endsNumber_members depth others rest)]
      simp only [Option.bind_some]
      cases others with
      | nil =>
          rw [members, List.append_assoc, skipGap_line]
          rfl
      | cons next more =>
          have continues : spacing.members depth (next :: more) =
              ',' :: spacing.memberLines depth (next :: more) := rfl
          rw [continues, List.length_cons] at lengths
          rw [continues, List.cons_append, skipGap_cons_of_not rfl]
          simp only
          rw [members?_memberLines (next :: more) depth left levels rest (List.cons_ne_nil _ _)
            faithful.2 (by omega) (by omega)]
          rfl

end

theorem parseWithin?_chars [ReadsBack] {json : Json} {levels : Nat}
    (faithful : json.isFaithful = true) (deep : json.depth ≤ levels) :
    parseWithin? levels (String.ofList (spacing.chars 0 json)) = some json := by
  have read := spacing.value?_chars json 0 (2 * (spacing.chars 0 json).length + 1) levels []
    faithful (by omega) deep endsNumber_nil
  rw [List.append_nil] at read
  unfold parseWithin?
  simp only [String.toList_ofList, read]
  rfl

end

end Spacing

variable [NumeralReader] [ReadsBack]

/-- Faithful data that is not nested too deeply is read back from its text. -/
theorem parseWithin?_pretty {json : Json} {levels : Nat} (faithful : json.isFaithful = true)
    (deep : json.depth ≤ levels) : parseWithin? levels json.pretty = some json := by
  rw [pretty, ← Spacing.chars_pretty]
  exact Spacing.pretty.parseWithin?_chars faithful deep

theorem parse?_pretty {json : Json} (faithful : json.isFaithful = true)
    (deep : json.depth ≤ nestingLimit) : parse? json.pretty = some json :=
  parseWithin?_pretty faithful deep

theorem parseWithin?_compact {json : Json} {levels : Nat} (faithful : json.isFaithful = true)
    (deep : json.depth ≤ levels) : parseWithin? levels json.compact = some json := by
  rw [compact, ← Spacing.chars_compact 0]
  exact Spacing.compact.parseWithin?_chars faithful deep

end DocStore.Json
