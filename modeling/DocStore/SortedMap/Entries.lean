/-!
Contract: entry lists kept in key order, and the reads and writes on them.

A list of key-value entries is read by its first matching entry. Insertion is a
single pass that replaces the matching entry or stops before the first greater
key; erasure removes every matching entry. The read-after-write laws below hold
of every list, ordered or not; insertion and erasure keep an ordered list
ordered, and an ordered list is determined by what it answers.

Owns: `Entries.find?`, `Entries.insert`, `Entries.erase`, `Entries.ofList` and their laws.
-/

namespace DocStore.Entries

variable {Key : Type u} {Content : Type v} [Ord Key]

/-- The content of the first entry with a key. -/
def find? (key : Key) : List (Key × Content) → Option Content
  | [] => none
  | (other, content) :: rest =>
      if compare key other = .eq then some content else find? key rest

/-- Replaces the entry with a key, or adds it before the first greater key. -/
def insert (key : Key) (content : Content) : List (Key × Content) → List (Key × Content)
  | [] => [(key, content)]
  | (other, present) :: rest =>
      match compare key other with
      | .lt => (key, content) :: (other, present) :: rest
      | .eq => (key, content) :: rest
      | .gt => (other, present) :: insert key content rest

/-- Removes every entry with a key. -/
def erase (key : Key) (entries : List (Key × Content)) : List (Key × Content) :=
  entries.filter fun entry => compare key entry.1 != .eq

/-- Collects entries from the left; a later entry replaces an earlier one with its key. -/
def ofList (entries : List (Key × Content)) : List (Key × Content) :=
  entries.foldl (fun collected entry => insert entry.1 entry.2 collected) []

/-- Every key is less than the keys after it. -/
def Sorted (entries : List (Key × Content)) : Prop :=
  entries.Pairwise fun left right => compare left.1 right.1 = .lt

instance (entries : List (Key × Content)) : Decidable (Sorted entries) := by
  unfold Sorted
  infer_instance

/-! ## Reading after writing -/

theorem find?_insert_self [Std.LawfulEqOrd Key] (key : Key) (content : Content)
    (entries : List (Key × Content)) : find? key (insert key content entries) = some content := by
  induction entries with
  | nil => simp [insert, find?]
  | cons entry rest inductionHypothesis =>
      obtain ⟨other, present⟩ := entry
      simp only [insert]
      cases order : compare key other <;> simp [find?, order, inductionHypothesis]

theorem find?_insert_of_ne [Std.LawfulEqOrd Key] {key other : Key} (different : other ≠ key)
    (content : Content) (entries : List (Key × Content)) :
    find? other (insert key content entries) = find? other entries := by
  have unequal : compare other key ≠ .eq := fun same =>
    different (Std.LawfulEqOrd.eq_of_compare same)
  induction entries with
  | nil => simp [insert, find?, unequal]
  | cons entry rest inductionHypothesis =>
      obtain ⟨first, present⟩ := entry
      simp only [insert]
      cases order : compare key first with
      | lt => simp [find?, unequal]
      | eq =>
          have same : key = first := Std.LawfulEqOrd.eq_of_compare order
          subst same
          simp [find?, unequal]
      | gt => simp [find?, inductionHypothesis]

theorem insert_insert [Std.LawfulEqOrd Key] (key : Key) (before after : Content)
    (entries : List (Key × Content)) :
    insert key after (insert key before entries) = insert key after entries := by
  induction entries with
  | nil => simp [insert]
  | cons entry rest inductionHypothesis =>
      obtain ⟨other, present⟩ := entry
      simp only [insert]
      cases order : compare key other <;> simp [insert, order, inductionHypothesis]

theorem find?_erase_self (key : Key) (entries : List (Key × Content)) :
    find? key (erase key entries) = none := by
  induction entries with
  | nil => rfl
  | cons entry rest inductionHypothesis =>
      obtain ⟨other, present⟩ := entry
      by_cases order : compare key other = .eq
      · simpa [erase, order] using inductionHypothesis
      · simp only [erase, bne_iff_ne, ne_eq, order, not_false_eq_true, List.filter_cons_of_pos,
          find?, reduceIte]
        exact inductionHypothesis

theorem find?_erase_of_ne [Std.LawfulEqOrd Key] {key other : Key} (different : other ≠ key)
    (entries : List (Key × Content)) :
    find? other (erase key entries) = find? other entries := by
  induction entries with
  | nil => rfl
  | cons entry rest inductionHypothesis =>
      obtain ⟨first, present⟩ := entry
      have step : erase key ((first, present) :: rest) =
          if compare key first = .eq then erase key rest
          else (first, present) :: erase key rest := by
        by_cases order : compare key first = .eq <;> simp [erase, order]
      rw [step]
      split
      next order =>
        have same : key = first := Std.LawfulEqOrd.eq_of_compare order
        subst same
        have unequal : compare other key ≠ .eq := fun same =>
          different (Std.LawfulEqOrd.eq_of_compare same)
        simpa [find?, unequal] using inductionHypothesis
      next => simp [find?, inductionHypothesis]

/-- Erasing a key that is not there changes nothing. -/
theorem erase_of_find?_eq_none {key : Key} {entries : List (Key × Content)}
    (absent : find? key entries = none) : erase key entries = entries := by
  induction entries with
  | nil => rfl
  | cons entry rest inductionHypothesis =>
      obtain ⟨other, present⟩ := entry
      by_cases order : compare key other = .eq
      · simp [find?, order] at absent
      · have restAbsent : find? key rest = none := by simpa [find?, order] using absent
        have restSame := inductionHypothesis restAbsent
        simp only [erase] at restSame
        simp [erase, order, restSame]

/-! ## Order -/

theorem mem_insert {key : Key} {content : Content} {entries : List (Key × Content)}
    {entry : Key × Content} (member : entry ∈ insert key content entries) :
    entry = (key, content) ∨ entry ∈ entries := by
  induction entries with
  | nil => simpa [insert] using member
  | cons first rest inductionHypothesis =>
      obtain ⟨other, present⟩ := first
      simp only [insert] at member
      cases order : compare key other with
      | lt => simpa [order] using member
      | eq =>
          simp only [order, List.mem_cons] at member
          rcases member with same | inRest
          · exact .inl same
          · exact .inr (List.mem_cons_of_mem _ inRest)
      | gt =>
          simp only [order, List.mem_cons] at member
          rcases member with same | inRest
          · exact .inr (same ▸ List.mem_cons_self)
          · exact (inductionHypothesis inRest).imp_right (List.mem_cons_of_mem _)

theorem sorted_nil : Sorted ([] : List (Key × Content)) := List.Pairwise.nil

theorem Sorted.insert [Std.TransOrd Key] [Std.LawfulEqOrd Key]
    {entries : List (Key × Content)} (sorted : Sorted entries) (key : Key) (content : Content) :
    Sorted (insert key content entries) := by
  induction entries with
  | nil => simp [Entries.insert, Sorted]
  | cons first rest inductionHypothesis =>
      obtain ⟨other, present⟩ := first
      obtain ⟨beforeRest, restSorted⟩ := List.pairwise_cons.1 sorted
      simp only [Entries.insert]
      cases order : compare key other with
      | lt =>
          refine List.pairwise_cons.2 ⟨fun entry member => ?_, sorted⟩
          rcases List.mem_cons.1 member with same | inRest
          · subst same; exact order
          · exact Std.TransCmp.lt_trans order (beforeRest entry inRest)
      | eq =>
          have same : key = other := Std.LawfulEqOrd.eq_of_compare order
          subst same
          exact List.pairwise_cons.2 ⟨beforeRest, restSorted⟩
      | gt =>
          refine List.pairwise_cons.2 ⟨fun entry member => ?_, inductionHypothesis restSorted⟩
          rcases mem_insert member with same | inRest
          · subst same; exact Std.OrientedCmp.lt_of_gt order
          · exact beforeRest entry inRest

theorem Sorted.erase {entries : List (Key × Content)} (sorted : Sorted entries) (key : Key) :
    Sorted (erase key entries) :=
  List.Pairwise.filter _ sorted

theorem Sorted.ofList [Std.TransOrd Key] [Std.LawfulEqOrd Key]
    (entries : List (Key × Content)) : Sorted (ofList entries) := by
  have grows : ∀ (more collected : List (Key × Content)), Sorted collected →
      Sorted (more.foldl (fun collected entry => Entries.insert entry.1 entry.2 collected)
        collected) := by
    intro more
    induction more with
    | nil => exact fun _ sorted => sorted
    | cons entry rest inductionHypothesis =>
        exact fun collected sorted => inductionHypothesis _ (sorted.insert entry.1 entry.2)
  exact grows entries [] sorted_nil

/-- In an ordered list nothing is found below the first key. -/
theorem Sorted.find?_eq_none_of_lt {key : Key} {entries : List (Key × Content)}
    (below : ∀ entry ∈ entries, compare key entry.1 = .lt) : find? key entries = none := by
  induction entries with
  | nil => rfl
  | cons first rest inductionHypothesis =>
      obtain ⟨other, present⟩ := first
      have order := below (other, present) List.mem_cons_self
      have restNone := inductionHypothesis fun entry member =>
        below entry (List.mem_cons_of_mem _ member)
      simp only at order
      simp [find?, order, restNone]

/-- Two ordered lists that answer every key alike are the same list. -/
theorem Sorted.ext [Std.TransOrd Key] [Std.LawfulEqOrd Key]
    {left right : List (Key × Content)} (leftSorted : Sorted left) (rightSorted : Sorted right)
    (same : ∀ key, find? key left = find? key right) : left = right := by
  induction left generalizing right with
  | nil =>
      cases right with
      | nil => rfl
      | cons entry rest => simpa [find?] using same entry.1
  | cons leftEntry leftRest inductionHypothesis =>
      obtain ⟨leftKey, leftContent⟩ := leftEntry
      obtain ⟨leftBefore, leftRestSorted⟩ := List.pairwise_cons.1 leftSorted
      cases right with
      | nil => simpa [find?] using same leftKey
      | cons rightEntry rightRest =>
          obtain ⟨rightKey, rightContent⟩ := rightEntry
          obtain ⟨rightBefore, rightRestSorted⟩ := List.pairwise_cons.1 rightSorted
          have sameKey : leftKey = rightKey := by
            cases order : compare leftKey rightKey with
            | eq => exact Std.LawfulEqOrd.eq_of_compare order
            | lt =>
                have absent : find? leftKey ((rightKey, rightContent) :: rightRest) = none :=
                  Sorted.find?_eq_none_of_lt fun entry member => by
                    rcases List.mem_cons.1 member with isFirst | inRest
                    · subst isFirst; exact order
                    · exact Std.TransCmp.lt_trans order (rightBefore entry inRest)
                have present := same leftKey
                rw [absent] at present
                simp [find?] at present
            | gt =>
                have reversed : compare rightKey leftKey = .lt := Std.OrientedCmp.lt_of_gt order
                have absent : find? rightKey ((leftKey, leftContent) :: leftRest) = none :=
                  Sorted.find?_eq_none_of_lt fun entry member => by
                    rcases List.mem_cons.1 member with isFirst | inRest
                    · subst isFirst; exact reversed
                    · exact Std.TransCmp.lt_trans reversed (leftBefore entry inRest)
                have present := same rightKey
                rw [absent] at present
                simp [find?] at present
          subst sameKey
          have sameContent : leftContent = rightContent := by
            simpa [find?] using same leftKey
          subst sameContent
          have sameRest : leftRest = rightRest := by
            refine inductionHypothesis leftRestSorted rightRestSorted fun key => ?_
            by_cases isFirst : compare key leftKey = .eq
            · have isKey : key = leftKey := Std.LawfulEqOrd.eq_of_compare isFirst
              subst isKey
              rw [Sorted.find?_eq_none_of_lt leftBefore, Sorted.find?_eq_none_of_lt rightBefore]
            · simpa [find?, isFirst] using same key
          rw [sameRest]

/-- In an ordered list the entries are exactly the answers. -/
theorem Sorted.mem_iff_find? [Std.LawfulEqOrd Key] {entries : List (Key × Content)}
    (sorted : Sorted entries) (key : Key) (content : Content) :
    (key, content) ∈ entries ↔ find? key entries = some content := by
  induction entries with
  | nil => simp [find?]
  | cons first rest inductionHypothesis =>
      obtain ⟨other, present⟩ := first
      obtain ⟨before, restSorted⟩ := List.pairwise_cons.1 sorted
      by_cases order : compare key other = .eq
      · have same : key = other := Std.LawfulEqOrd.eq_of_compare order
        subst same
        simp only [List.mem_cons, Prod.mk.injEq, true_and, find?, Std.ReflOrd.compare_self,
          reduceIte, Option.some.injEq]
        constructor
        · rintro (isFirst | inRest)
          · exact isFirst.symm
          · have impossible := before _ inRest
            simp at impossible
        · exact fun isFirst => .inl isFirst.symm
      · have unequal : key ≠ other := fun same => order (by simp [same])
        simp [find?, order, unequal, inductionHypothesis restSorted]

end DocStore.Entries
