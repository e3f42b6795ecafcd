import DocStore.Text.Split

/-!
Contract: where a text is cut.

No piece holds the separator. A text without the separator is one piece, and an
ending without the separator stays in one piece with what stands before it.

Owns: what the pieces of a text look like.
-/

namespace DocStore.Text

theorem not_mem_of_mem_pieces {separator : Char} {characters piece : List Char}
    (member : piece ∈ pieces separator characters) : separator ∉ piece := by
  induction characters generalizing piece with
  | nil =>
      rw [pieces, List.mem_singleton] at member
      simp [member]
  | cons character rest inductionHypothesis =>
      rw [pieces] at member
      split at member
      · rcases List.mem_cons.1 member with isEmpty | inRest
        · simp [isEmpty]
        · exact inductionHypothesis inRest
      next different =>
        cases shape : pieces separator rest with
        | nil => exact absurd shape (pieces_ne_nil separator rest)
        | cons first others =>
            rw [shape] at member inductionHypothesis
            rcases List.mem_cons.1 member with isFirst | inRest
            · have notFirst := inductionHypothesis (List.mem_cons_self ..)
              rw [isFirst, List.mem_cons, not_or]
              exact ⟨fun same => different same.symm, notFirst⟩
            · exact inductionHypothesis (List.mem_cons_of_mem _ inRest)

/-- The last piece of a text takes up an ending without the separator. -/
theorem pieces_append {separator : Char} {ending : List Char} (plain : separator ∉ ending)
    (characters : List Char) :
    ∃ front last, pieces separator characters = front ++ [last] ∧
      pieces separator (characters ++ ending) = front ++ [last ++ ending] := by
  induction characters with
  | nil =>
      refine ⟨[], [], rfl, ?_⟩
      induction ending with
      | nil => rfl
      | cons character rest inductionHypothesis =>
          rw [List.mem_cons, not_or] at plain
          have restCase := inductionHypothesis plain.2
          simp only [List.nil_append] at restCase ⊢
          rw [pieces, if_neg fun same => plain.1 same.symm, restCase]
  | cons character rest inductionHypothesis =>
      obtain ⟨front, last, alone, extended⟩ := inductionHypothesis
      rw [List.cons_append, pieces, pieces, alone, extended]
      by_cases same : character = separator
      · rw [if_pos same, if_pos same]
        exact ⟨[] :: front, last, rfl, rfl⟩
      · rw [if_neg same, if_neg same]
        cases front with
        | nil => exact ⟨[], character :: last, rfl, rfl⟩
        | cons first others => exact ⟨(character :: first) :: others, last, rfl, rfl⟩

/-- The first separator ends the first piece. -/
theorem pieces_append_separator {separator : Char} {front : List Char} (plain : separator ∉ front)
    (rest : List Char) :
    pieces separator (front ++ separator :: rest) = front :: pieces separator rest := by
  induction front with
  | nil => rw [List.nil_append, pieces, if_pos rfl]
  | cons character others inductionHypothesis =>
      rw [List.mem_cons, not_or] at plain
      rw [List.cons_append, pieces, if_neg fun same => plain.1 same.symm,
        inductionHypothesis plain.2]

theorem splitAt_append {separator : Char} (text : String) {ending : String}
    (plain : separator ∉ ending.toList) :
    ∃ front last, separator ∉ last.toList ∧
      splitAt separator (text ++ ending) = front ++ [last ++ ending] := by
  obtain ⟨front, last, alone, extended⟩ := pieces_append plain text.toList
  refine ⟨front.map String.ofList, String.ofList last, ?_, ?_⟩
  · rw [String.toList_ofList]
    have member : last ∈ pieces separator text.toList := by
      rw [alone]
      exact List.mem_append_right _ (List.mem_singleton_self last)
    exact not_mem_of_mem_pieces member
  · unfold splitAt
    rw [String.toList_append, extended, List.map_append, List.map_singleton, String.ofList_append,
      String.ofList_toList]

/-- A text without the separator is one piece. -/
theorem splitAt_of_not_mem {separator : Char} {text : String}
    (plain : separator ∉ text.toList) : splitAt separator text = [text] := by
  obtain ⟨front, last, alone, extended⟩ := pieces_append plain []
  rw [pieces, List.singleton_eq_append_iff] at alone
  rcases alone with ⟨noFront, isLast⟩ | ⟨_, absurdity⟩
  · rw [List.singleton_inj] at isLast
    unfold splitAt
    rw [← List.nil_append text.toList, extended, noFront, isLast]
    simp
  · cases absurdity

end DocStore.Text
