/-!
Contract: texts in the order of their bytes.

Keys and names are compared character by character. In UTF-8 that is the order of
the encoded bytes: of two characters the lesser one has the lesser bytes, at a
place within both encodings, so what follows them makes no difference.

Owns: `Text.bytes` and its agreement with the order of texts.
-/

namespace DocStore.Text

/-- The bytes of a text in UTF-8. -/
def bytes (text : String) : List UInt8 := text.toUTF8.data.toList

theorem bytes_eq_flatMap (text : String) :
    bytes text = text.toList.flatMap String.utf8EncodeChar := by
  unfold bytes
  rw [String.toUTF8_eq_toByteArray, ← String.utf8Encode_toList, List.utf8Encode,
    List.toList_data_toByteArray]

theorem bytes_injective {left right : String} (same : bytes left = bytes right) : left = right := by
  unfold bytes at same
  rw [String.toUTF8_eq_toByteArray, String.toUTF8_eq_toByteArray, Array.toList_inj,
    ← ByteArray.ext_iff] at same
  exact String.toByteArray_inj.1 same

/-- Whatever follows them, the lesser character has the lesser bytes. -/
theorem utf8EncodeChar_append_lt {left right : Char} (less : left < right)
    (leftRest rightRest : List UInt8) :
    String.utf8EncodeChar left ++ leftRest < String.utf8EncodeChar right ++ rightRest := by
  have less : left.val.toNat < right.val.toNat := UInt32.lt_iff_toNat_lt.1 (Char.lt_def.1 less)
  have bound : right.val.toNat < 64 * 64 * 64 * 8 := by
    have valid := right.valid
    unfold UInt32.isValidChar Nat.isValidChar at valid
    omega
  unfold String.utf8EncodeChar
  generalize left.val.toNat = left at less ⊢
  generalize right.val.toNat = right at less bound ⊢
  have twice (code : Nat) : code / 4096 = code / 64 / 64 := by omega
  have thrice (code : Nat) : code / 262144 = code / 64 / 64 / 64 := by omega
  dsimp only
  repeat' split
  all_goals
    simp (disch := omega) only [List.cons_append, List.nil_append, List.cons_lt_cons_iff,
      UInt8.lt_iff_toNat_lt, ← UInt8.toNat_inj, UInt8.toNat_ofNat', twice, thrice,
      Nat.mod_eq_of_lt]
    omega

/-- The first character in which two texts differ decides about their bytes as well. -/
theorem flatMap_utf8EncodeChar_lt {left right : List Char} (less : left < right) :
    left.flatMap String.utf8EncodeChar < right.flatMap String.utf8EncodeChar := by
  induction less with
  | @nil first rest =>
      cases encoded : String.utf8EncodeChar first with
      | nil => exact absurd encoded String.utf8EncodeChar_ne_nil
      | cons =>
          simp only [List.flatMap_cons, List.flatMap_nil, encoded, List.cons_append,
            List.nil_lt_cons]
  | rel isLess =>
      rw [List.flatMap_cons, List.flatMap_cons]
      exact utf8EncodeChar_append_lt isLess _ _
  | cons _ restLess =>
      rw [List.flatMap_cons, List.flatMap_cons]
      exact List.append_left_lt restLess

/-- The order of texts is the order of their bytes. -/
theorem compare_eq_lt_iff_bytes (left right : String) :
    compare left right = .lt ↔ bytes left < bytes right := by
  have forward {left right : String} (before : compare left right = .lt) :
      bytes left < bytes right := by
    rw [bytes_eq_flatMap, bytes_eq_flatMap]
    exact flatMap_utf8EncodeChar_lt (String.lt_iff.1 (compareOfLessAndEq_eq_lt.1 before))
  refine ⟨forward, ?_⟩
  intro less
  cases order : compare left right with
  | lt => rfl
  | eq =>
      rw [Std.LawfulEqOrd.eq_of_compare order] at less
      exact absurd less (List.lt_irrefl _)
  | gt =>
      have turned : compare right left = .lt := Std.OrientedCmp.lt_of_gt order
      exact absurd less (List.lt_asymm (forward turned))

end DocStore.Text
