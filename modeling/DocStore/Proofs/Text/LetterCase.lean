import DocStore.Text.LetterCase

/-!
Contract: equality without regard to case is equality of lower-case forms.

Capital sigma and capital I with a dot are beyond ASCII, so an ASCII text is
lower-cased letter by letter. The comparison that spares the tables therefore
answers as the one that uses them.

Owns: lower case of ASCII texts, and `Text.equalIgnoringCase_iff`.
-/

namespace DocStore.Text

theorem lowerFrom_of_ascii {characters : List Char}
    (ascii : ∀ character ∈ characters, character.toNat < 128) (before : List Char) :
    lowerFrom before characters = characters.map Char.toLower := by
  induction characters generalizing before with
  | nil => rfl
  | cons character rest inductionHypothesis =>
      have isAscii := ascii character List.mem_cons_self
      have notSigma : character ≠ 'Σ' := by
        intro isSigma
        rw [isSigma] at isAscii
        exact absurd isAscii (by decide)
      have restLowered := inductionHypothesis
        (fun other member => ascii other (List.mem_cons_of_mem _ member)) (character :: before)
      simp only [lowerFrom, if_neg notSigma, lowerChar, if_pos isAscii, restLowered]
      rfl

theorem lowercase_of_isAscii {text : String} (ascii : isAscii text = true) :
    lowercase text = String.ofList (text.toList.map Char.toLower) := by
  unfold isAscii at ascii
  rw [List.all_eq_true] at ascii
  have small : ∀ character ∈ text.toList, character.toNat < 128 := fun character member =>
    of_decide_eq_true (ascii character member)
  rw [lowercase, lowerFrom_of_ascii small]

theorem equalIgnoringCase_iff (left right : String) :
    equalIgnoringCase left right = true ↔ lowercase left = lowercase right := by
  unfold equalIgnoringCase
  split
  next ascii =>
    rw [Bool.and_eq_true] at ascii
    rw [lowercase_of_isAscii ascii.1, lowercase_of_isAscii ascii.2, String.ofList_inj,
      equalIgnoringAsciiCase, beq_iff_eq]
  next => exact beq_iff_eq

end DocStore.Text
