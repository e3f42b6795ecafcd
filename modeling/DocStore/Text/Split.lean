/-!
Contract: cutting a text at every occurrence of one character.

The pieces lie between the separators, so there is always one piece more than
there are separators and the empty text has one empty piece.

Owns: `Text.splitAt` and its inverse.
-/

namespace DocStore.Text

/-- The pieces of a character list between separators. -/
def pieces (separator : Char) : List Char → List (List Char)
  | [] => [[]]
  | character :: rest =>
      if character = separator then [] :: pieces separator rest
      else
        match pieces separator rest with
        | [] => [[character]]
        | first :: others => (character :: first) :: others

/-- The pieces of a text between separators. -/
def splitAt (separator : Char) (text : String) : List String :=
  (pieces separator text.toList).map String.ofList

/-- Puts pieces together again with separators between them. -/
def joined (separator : Char) : List (List Char) → List Char
  | [] => []
  | [piece] => piece
  | piece :: rest => piece ++ separator :: joined separator rest

theorem pieces_ne_nil (separator : Char) (characters : List Char) :
    pieces separator characters ≠ [] := by
  cases characters with
  | nil => simp [pieces]
  | cons character rest =>
      simp only [pieces]
      split
      · simp
      · split <;> simp

theorem joined_pieces (separator : Char) (characters : List Char) :
    joined separator (pieces separator characters) = characters := by
  induction characters with
  | nil => rfl
  | cons character rest inductionHypothesis =>
      simp only [pieces]
      split
      next same =>
        subst same
        cases shape : pieces character rest with
        | nil => exact absurd shape (pieces_ne_nil character rest)
        | cons first others =>
            rw [shape] at inductionHypothesis
            simp [joined, inductionHypothesis]
      next =>
        cases shape : pieces separator rest with
        | nil => exact absurd shape (pieces_ne_nil separator rest)
        | cons first others =>
            rw [shape] at inductionHypothesis
            cases others with
            | nil => simpa [joined] using inductionHypothesis
            | cons second more => simpa [joined] using inductionHypothesis

end DocStore.Text
