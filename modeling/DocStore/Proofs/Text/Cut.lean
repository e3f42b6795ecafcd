/-!
Contract: the place at which a list is cut by a test.

A front whose items all pass, followed by a list that does not begin with a
passing item, is cut between the two. So there is one way only to put a list
together from such parts.

Owns: `Stops`, and the two parts of a list that is put together.
-/

namespace DocStore.Text

variable {Item : Type} {passes : Item → Bool}

/-- A list that does not begin with a passing item. -/
def Stops (passes : Item → Bool) (items : List Item) : Prop :=
  ∀ first, items.head? = some first → passes first = false

theorem takeWhile_append_of_stops {front rest : List Item}
    (pass : ∀ item ∈ front, passes item = true) (stops : Stops passes rest) :
    (front ++ rest).takeWhile passes = front := by
  have none : rest.takeWhile passes = [] := by
    cases rest with
    | nil => rfl
    | cons first others => exact List.takeWhile_cons_of_neg (by simp [stops first rfl])
  rw [List.takeWhile_append_of_pos pass, none, List.append_nil]

theorem dropWhile_append_of_stops {front rest : List Item}
    (pass : ∀ item ∈ front, passes item = true) (stops : Stops passes rest) :
    (front ++ rest).dropWhile passes = rest := by
  rw [List.dropWhile_append_of_pos pass]
  cases rest with
  | nil => rfl
  | cons first others => exact List.dropWhile_cons_of_neg (by simp [stops first rfl])

/-- A list is cut in one way into a passing front and a rest that stops. -/
theorem append_inj_of_stops {left right leftRest rightRest : List Item}
    (leftPass : ∀ item ∈ left, passes item = true)
    (rightPass : ∀ item ∈ right, passes item = true) (leftStops : Stops passes leftRest)
    (rightStops : Stops passes rightRest) (same : left ++ leftRest = right ++ rightRest) :
    left = right ∧ leftRest = rightRest := by
  constructor
  · rw [← takeWhile_append_of_stops leftPass leftStops, same,
      takeWhile_append_of_stops rightPass rightStops]
  · rw [← dropWhile_append_of_stops leftPass leftStops, same,
      dropWhile_append_of_stops rightPass rightStops]

end DocStore.Text
