import DocStore.Disk.Session

/-!
Contract: what work in a session comes to when it succeeds.

Owns: `Work.Ends` and its laws, one for each primitive step and each way to put
steps together.
-/

namespace DocStore.Work

variable {Result Middle : Type}

/-- Work that begins with one session and ends with a result and another. -/
def Ends (work : Work Result) (before : Session) (result : Result) (after : Session) : Prop :=
  (work.run.run before : Except Error Result × Session) = (.ok result, after)

theorem ends_pure_iff (value result : Result) (before after : Session) :
    (pure value : Work Result).Ends before result after ↔ result = value ∧ after = before := by
  unfold Ends
  show ((Except.ok value, before) : Except Error Result × Session) = (.ok result, after) ↔ _
  rw [Prod.mk.injEq, Except.ok.injEq]
  exact and_congr eq_comm eq_comm

theorem ends_bind_iff (work : Work Middle) (next : Middle → Work Result) (before : Session)
    (result : Result) (after : Session) :
    (work >>= next).Ends before result after ↔
      ∃ middle between, work.Ends before middle between ∧
        (next middle).Ends between result after := by
  have step : ((work >>= next).run.run before : Except Error Result × Session) =
      (ExceptT.bindCont next (work.run.run before).1 : StateM Session (Except Error Result))
        (work.run.run before).2 := rfl
  unfold Ends
  rw [step]
  rcases (work.run.run before : Except Error Middle × Session) with ⟨error | middle, between⟩
  · refine iff_of_false ?_ ?_
    · intro same
      cases (Prod.mk.inj same).1
    · rintro ⟨middle, _, same, _⟩
      cases (Prod.mk.inj same).1
  · constructor
    · exact fun ends => ⟨middle, between, rfl, ends⟩
    · rintro ⟨_, _, same, ends⟩
      cases same
      exact ends

theorem ends_throw_iff (error : Error) (before after : Session) (result : Result) :
    (throw error : Work Result).Ends before result after ↔ False := by
  unfold Ends
  show ((Except.error error, before) : Except Error Result × Session) = (.ok result, after) ↔ _
  simp

theorem ends_disk_iff (before after : Session) (result : Disk) :
    Work.disk.Ends before result after ↔ result = before.disk ∧ after = before := by
  unfold Ends
  show ((Except.ok before.disk, before) : Except Error Disk × Session) = (.ok result, after) ↔ _
  rw [Prod.mk.injEq, Except.ok.injEq]
  exact and_congr eq_comm eq_comm

theorem ends_announce (line : LogLine) (before : Session) :
    (announce line).Ends before ()
      { before with announced := before.announced ++ [line] } := rfl

theorem disk_of_ends_announce {line : LogLine} {before after : Session}
    (ends : (announce line).Ends before () after) : after.disk = before.disk := by
  have isAfter := (ends_announce line before).symm.trans ends
  rw [← (Prod.mk.inj isAfter).2]

theorem ends_get_iff (before after result : Session) :
    (get : Work Session).Ends before result after ↔ result = before ∧ after = before := by
  unfold Ends
  show ((Except.ok before, before) : Except Error Session × Session) = (.ok result, after) ↔ _
  rw [Prod.mk.injEq, Except.ok.injEq]
  exact and_congr eq_comm eq_comm

theorem ends_set_iff (session before after : Session) :
    (set session : Work Unit).Ends before () after ↔ after = session := by
  unfold Ends
  show ((Except.ok (), session) : Except Error Unit × Session) = (.ok (), after) ↔ _
  rw [Prod.mk.injEq]
  simp [eq_comm]

/-- An action is performed when the disk allows it. -/
theorem ends_perform_iff (action : Disk.Action) (before after : Session) :
    (perform action).Ends before () after ↔
      before.disk.perform action = .ok after.disk ∧
        after.performed = before.performed ++ [action] ∧ after.announced = before.announced := by
  unfold perform
  rw [ends_bind_iff]
  constructor
  · rintro ⟨session, between, isSession, ends⟩
    obtain ⟨rfl, rfl⟩ := (ends_get_iff ..).1 isSession
    split at ends
    next disk allowed =>
      rw [(ends_set_iff ..).1 ends]
      exact ⟨allowed, rfl, rfl⟩
    next => exact False.elim ((ends_throw_iff ..).1 ends)
  · rintro ⟨allowed, performed, announced⟩
    refine ⟨before, before, (ends_get_iff ..).2 ⟨rfl, rfl⟩, ?_⟩
    simp only [allowed]
    refine (ends_set_iff ..).2 ?_
    rw [← performed, ← announced]

theorem ends_perform {action : Disk.Action} {before : Session} {disk : Disk}
    (performed : before.disk.perform action = .ok disk) :
    (perform action).Ends before ()
      { before with disk := disk, performed := before.performed ++ [action] } :=
  (ends_perform_iff ..).2 ⟨performed, rfl, rfl⟩

theorem ends_observe_iff (read : Disk → Except DiskFault Result) (before after : Session)
    (result : Result) :
    (observe read).Ends before result after ↔ read before.disk = .ok result ∧ after = before := by
  unfold observe
  rw [ends_bind_iff]
  constructor
  · rintro ⟨disk, between, isDisk, ends⟩
    obtain ⟨rfl, rfl⟩ := (ends_disk_iff ..).1 isDisk
    split at ends
    next value found =>
      obtain ⟨rfl, rfl⟩ := (ends_pure_iff ..).1 ends
      exact ⟨found, rfl⟩
    next => exact False.elim ((ends_throw_iff ..).1 ends)
  · rintro ⟨found, rfl⟩
    refine ⟨after.disk, after, (ends_disk_iff ..).2 ⟨rfl, rfl⟩, ?_⟩
    simp only [found]
    exact (ends_pure_iff ..).2 ⟨rfl, rfl⟩

/-! ## Many steps -/

variable {Item : Type}

theorem ends_forM_nil_iff (each : Item → Work Unit) (before after : Session) :
    (List.forM [] each).Ends before () after ↔ after = before := by
  show (pure () : Work Unit).Ends before () after ↔ _
  rw [ends_pure_iff]
  simp

theorem ends_forM_cons_iff (each : Item → Work Unit) (first : Item) (rest : List Item)
    (before after : Session) :
    (List.forM (first :: rest) each).Ends before () after ↔
      ∃ between, (each first).Ends before () between ∧ (rest.forM each).Ends between () after := by
  show (each first >>= fun _ => rest.forM each).Ends before () after ↔ _
  rw [ends_bind_iff]
  exact ⟨fun ⟨_, between, ends⟩ => ⟨between, ends⟩, fun ⟨between, ends⟩ => ⟨(), between, ends⟩⟩

/-- What every step keeps, all steps keep. -/
theorem forM_keeps (holds : Session → Prop) {each : Item → Work Unit} (items : List Item)
    (keeps : ∀ item ∈ items, ∀ before after, holds before → (each item).Ends before () after →
      holds after) :
    ∀ {before after : Session}, holds before → (items.forM each).Ends before () after →
      holds after := by
  induction items with
  | nil =>
      intro before after good ends
      rw [ends_forM_nil_iff] at ends
      rw [ends]
      exact good
  | cons first rest inductionHypothesis =>
      intro before after good ends
      obtain ⟨between, firstEnds, restEnds⟩ := (ends_forM_cons_iff ..).1 ends
      have between_good := keeps first (List.mem_cons_self ..) before between good firstEnds
      exact inductionHypothesis
        (fun item member => keeps item (List.mem_cons_of_mem _ member)) between_good restEnds

/-- Steps that can always be made from where the ones before them end can all be made. -/
theorem forM_ends (holds : Session → Prop) (each : Item → Work Unit) (items : List Item)
    (makes : ∀ item ∈ items, ∀ before, holds before → ∃ after, (each item).Ends before () after ∧
      holds after) :
    ∀ {before : Session}, holds before → ∃ after, (items.forM each).Ends before () after ∧
      holds after := by
  induction items with
  | nil => exact fun {before} good => ⟨before, (ends_forM_nil_iff ..).2 rfl, good⟩
  | cons first rest inductionHypothesis =>
      intro before good
      obtain ⟨between, firstEnds, between_good⟩ := makes first (List.mem_cons_self ..) before good
      obtain ⟨after, restEnds, after_good⟩ := inductionHypothesis
        (fun item member => makes item (List.mem_cons_of_mem _ member)) between_good
      exact ⟨after, (ends_forM_cons_iff ..).2 ⟨between, firstEnds, restEnds⟩, after_good⟩

/-- When every step brings about a fact of its own and spares the facts of the other steps, all
facts hold in the end. -/
theorem forM_establishes (holds : Session → Prop) (fact : Item → Session → Prop)
    (each : Item → Work Unit) (items : List Item)
    (does : ∀ item ∈ items, ∀ before after, holds before → (each item).Ends before () after →
      holds after ∧ fact item after)
    (spares : ∀ item ∈ items, ∀ other ∈ items, item ≠ other → ∀ before after, holds before →
      (each item).Ends before () after → fact other before → fact other after) :
    ∀ {before after : Session}, holds before → (items.forM each).Ends before () after →
      holds after ∧ ∀ item ∈ items, fact item after := by
  induction items with
  | nil =>
      intro before after good ends
      rw [ends_forM_nil_iff] at ends
      rw [ends]
      exact ⟨good, fun item member => absurd member List.not_mem_nil⟩
  | cons first rest inductionHypothesis =>
      intro before after good ends
      obtain ⟨between, firstEnds, restEnds⟩ := (ends_forM_cons_iff ..).1 ends
      obtain ⟨betweenGood, firstFact⟩ :=
        does first (List.mem_cons_self ..) before between good firstEnds
      obtain ⟨afterGood, restFacts⟩ := inductionHypothesis
        (fun item member => does item (List.mem_cons_of_mem _ member))
        (fun item member other otherMember =>
          spares item (List.mem_cons_of_mem _ member) other (List.mem_cons_of_mem _ otherMember))
        betweenGood restEnds
      have firstKept : holds after ∧ fact first after := by
        refine forM_keeps (fun session => holds session ∧ fact first session) rest ?_
          ⟨betweenGood, firstFact⟩ restEnds
        intro item member start stop both step
        obtain ⟨stopGood, itemFact⟩ :=
          does item (List.mem_cons_of_mem _ member) start stop both.1 step
        refine ⟨stopGood, ?_⟩
        by_cases same : item = first
        · exact same ▸ itemFact
        · exact spares item (List.mem_cons_of_mem _ member) first (List.mem_cons_self ..) same
            start stop both.1 step both.2
      refine ⟨afterGood, fun item member => ?_⟩
      rcases List.mem_cons.1 member with isFirst | inRest
      · exact isFirst ▸ firstKept.2
      · exact restFacts item inRest

end DocStore.Work
