import DocStore.Proofs.Disk.Creation

/-!
Contract: what is left of a disk when work stops early.

Work may stop before any of the actions it performs, or within a write. A write
that stops leaves any text in its own file and nothing else touched; the other
actions happen as a whole or not at all. Work guards a property of disks when
the property holds of whatever it may leave, its own end included. Then it is
enough to look at one action at a time.

Owns: `Disk.Left`, `Disk.stopAt`, `Work.Guards` and its laws.
-/

namespace DocStore

namespace Disk

/-- A disk that is left when actions stop early: all actions before some point have been performed,
and a write at that point may have put any text into its file. -/
inductive Left : Disk → List Action → Disk → Prop
  | stopped (disk : Disk) (actions : List Action) : Left disk actions disk
  | torn {disk after : Disk} {location : Location} {content part : ByteArray}
      {rest : List Action} (written : disk.write location part = .ok after) :
      Left disk (.write location content :: rest) after
  | went {disk next after : Disk} {action : Action} {rest : List Action}
      (performed : disk.perform action = .ok next) (later : Left next rest after) :
      Left disk (action :: rest) after

/-- Performs actions from left to right. -/
def performAll (disk : Disk) : List Action → Except DiskFault Disk
  | [] => .ok disk
  | action :: rest => do
      let next ← disk.perform action
      performAll next rest

variable {disk middle after : Disk} {first second : List Action}

theorem performAll_append (performed : disk.performAll first = .ok middle) :
    disk.performAll (first ++ second) = middle.performAll second := by
  induction first generalizing disk with
  | nil =>
      rw [Except.ok.inj performed]
      rfl
  | cons action rest inductionHypothesis =>
      rw [performAll, bind_eq_ok_iff] at performed
      rcases performed with ⟨next, isNext, restPerformed⟩
      rw [List.cons_append, performAll, isNext]
      exact inductionHypothesis restPerformed

/-- Actions go through and others stop after them. -/
theorem left_of_performAll_append (performed : disk.performAll first = .ok middle)
    (later : middle.Left second after) : disk.Left (first ++ second) after := by
  induction first generalizing disk with
  | nil =>
      rw [Except.ok.inj performed]
      exact later
  | cons action rest inductionHypothesis =>
      rw [performAll, bind_eq_ok_iff] at performed
      rcases performed with ⟨next, isNext, restPerformed⟩
      exact .went isNext (inductionHypothesis restPerformed)

theorem left_of_performAll (performed : disk.performAll first = .ok after) :
    disk.Left first after := by
  rw [← List.append_nil first]
  exact left_of_performAll_append performed (.stopped after [])

theorem eq_of_left_nil (left : disk.Left [] after) : after = disk := by
  cases left
  rfl

/-- Actions stop among the first of them or go on with the others. -/
theorem left_append (left : disk.Left (first ++ second) after) :
    disk.Left first after ∨
      ∃ middle, disk.performAll first = .ok middle ∧ middle.Left second after := by
  induction first generalizing disk with
  | nil => exact .inr ⟨disk, rfl, left⟩
  | cons action rest inductionHypothesis =>
      rw [List.cons_append] at left
      cases left with
      | stopped => exact .inl (.stopped ..)
      | torn written => exact .inl (.torn written)
      | went performed later =>
          rcases inductionHypothesis later with amongFirst | ⟨middle, isMiddle, later⟩
          · exact .inl (.went performed amongFirst)
          · refine .inr ⟨middle, ?_, later⟩
            rw [performAll, performed]
            exact isMiddle

end Disk

namespace Work

open Disk

variable {Result Middle : Type} {safe : Disk → Prop} {before after : Session}

/-- The session after work, whether it succeeds or not. -/
def sessionAfter (work : Work Result) (before : Session) : Session :=
  (work.run.run before : Except Error Result × Session).2

/-- Work that begins with a session leaves only safe disks, wherever it stops. -/
def Guards (safe : Disk → Prop) (work : Work Result) (before : Session) : Prop :=
  ∃ actions, (work.sessionAfter before).performed = before.performed ++ actions ∧
    before.disk.performAll actions = .ok (work.sessionAfter before).disk ∧
    ∀ left, before.disk.Left actions left → safe left

theorem Guards.of_ends {work : Work Result} {result : Result} (guards : Guards safe work before)
    (ends : work.Ends before result after) : safe after.disk := by
  rcases guards with ⟨actions, -, performed, safeLeft⟩
  have isAfter : work.sessionAfter before = after := congrArg Prod.snd ends
  rw [isAfter] at performed
  exact safeLeft _ (left_of_performAll performed)

/-- Whatever is left when work on a disk stops among its actions is safe. -/
theorem Guards.of_left {work : Work Result} {disk left : Disk}
    (guards : Guards safe work (Session.start disk))
    (stops : disk.Left (work.runOn disk).2.performed left) : safe left := by
  rcases guards with ⟨actions, isPerformed, -, safeLeft⟩
  apply safeLeft
  rw [← List.nil_append actions]
  show (Session.start disk).disk.Left ((Session.start disk).performed ++ actions) left
  rw [← isPerformed]
  exact stops

/-! ## Steps without an action -/

theorem guards_of_unchanged {work : Work Result} (good : safe before.disk)
    (sameDisk : (work.sessionAfter before).disk = before.disk)
    (samePerformed : (work.sessionAfter before).performed = before.performed) :
    Guards safe work before := by
  refine ⟨[], ?_, ?_, fun left stops => ?_⟩
  · rw [samePerformed, List.append_nil]
  · rw [sameDisk]
    rfl
  · rw [eq_of_left_nil stops]
    exact good

theorem guards_of_ends_self {work : Work Result} {result : Result} (good : safe before.disk)
    (ends : work.Ends before result before) : Guards safe work before := by
  have isAfter : work.sessionAfter before = before := congrArg Prod.snd ends
  apply guards_of_unchanged good <;> rw [isAfter]

theorem guards_pure (good : safe before.disk) (value : Result) :
    Guards safe (pure value : Work Result) before :=
  guards_of_unchanged good rfl rfl

theorem guards_throw (good : safe before.disk) (error : Error) :
    Guards safe (throw error : Work Result) before :=
  guards_of_unchanged good rfl rfl

theorem guards_disk (good : safe before.disk) : Guards safe Work.disk before :=
  guards_of_unchanged good rfl rfl

theorem guards_announce (good : safe before.disk) (line : LogLine) :
    Guards safe (announce line) before :=
  guards_of_unchanged good rfl rfl

/-! ## Steps one after another -/

theorem sessionAfter_bind (work : Work Middle) (next : Middle → Work Result) (before : Session) :
    (work >>= next).sessionAfter before =
      match (work.run.run before : Except Error Middle × Session) with
      | (.ok middle, between) => (next middle).sessionAfter between
      | (.error _, between) => between := by
  have step : ((work >>= next).run.run before : Except Error Result × Session) =
      (ExceptT.bindCont next (work.run.run before).1 : StateM Session (Except Error Result))
        (work.run.run before).2 := rfl
  unfold sessionAfter
  rw [step]
  rcases (work.run.run before : Except Error Middle × Session) with ⟨error | middle, between⟩
  · rfl
  · rfl

theorem guards_bind {work : Work Middle} {next : Middle → Work Result}
    (guards : Guards safe work before)
    (continues : ∀ middle between, work.Ends before middle between →
      Guards safe (next middle) between) :
    Guards safe (work >>= next) before := by
  rcases guards with ⟨first, isPerformed, performed, safeFirst⟩
  have isAfter := sessionAfter_bind work next before
  unfold sessionAfter at isPerformed performed
  rcases outcome : (work.run.run before : Except Error Middle × Session) with
    ⟨error | middle, between⟩
  · -- A first step that fails is all there is.
    rw [outcome] at isPerformed performed isAfter
    refine ⟨first, ?_, ?_, safeFirst⟩
    · rw [isAfter]
      exact isPerformed
    · rw [isAfter]
      exact performed
  · rw [outcome] at isPerformed performed isAfter
    rcases continues middle between outcome with ⟨second, isNext, nextPerformed, safeSecond⟩
    refine ⟨first ++ second, ?_, ?_, fun left stops => ?_⟩
    · rw [isAfter, isNext, isPerformed, List.append_assoc]
    · rw [isAfter, performAll_append performed]
      exact nextPerformed
    · rcases left_append stops with amongFirst | ⟨reached, isReached, later⟩
      · exact safeFirst left amongFirst
      · rw [performed] at isReached
        rw [← Except.ok.inj isReached] at later
        exact safeSecond left later

theorem guards_observe {read : Disk → Except DiskFault Result} (good : safe before.disk) :
    Guards safe (observe read) before := by
  unfold observe
  apply guards_bind (guards_disk good)
  intro disk between isDisk
  rw [((ends_disk_iff ..).1 isDisk).2]
  split
  · exact guards_pure good _
  · exact guards_throw good _

/-! ## Actions -/

/-- An action is safe when it is before it, after it and, if it writes, with any text written. -/
theorem guards_perform {action : Action} (good : safe before.disk)
    (whole : ∀ disk, before.disk.perform action = .ok disk → safe disk)
    (torn : ∀ location content part disk, action = .write location content →
      before.disk.write location part = .ok disk → safe disk) :
    Guards safe (perform action) before := by
  cases allowed : before.disk.perform action with
  | error fault =>
      unfold perform
      apply guards_bind (guards_of_unchanged good rfl rfl)
      intro session between isSession
      rcases (ends_get_iff ..).1 isSession with ⟨isBefore, isStart⟩
      rw [isBefore, isStart, allowed]
      exact guards_throw good _
  | ok disk =>
      have isAfter : (perform action).sessionAfter before =
          { before with disk := disk, performed := before.performed ++ [action] } :=
        congrArg Prod.snd (ends_perform allowed)
      refine ⟨[action], ?_, ?_, fun left stops => ?_⟩
      · rw [isAfter]
      · rw [isAfter, performAll, allowed]
        rfl
      · cases stops with
        | stopped => exact good
        | torn written => exact torn _ _ _ _ rfl written
        | went performed later =>
            rw [eq_of_left_nil later]
            exact whole _ performed

theorem guards_write {location : Location} {content : ByteArray} (good : safe before.disk)
    (written : ∀ part disk, before.disk.write location part = .ok disk → safe disk) :
    Guards safe (perform (.write location content)) before := by
  refine guards_perform good (written content) ?_
  intro location content part disk isWrite tornWrite
  cases isWrite
  exact written part disk tornWrite

theorem guards_rename {source target : Location} (good : safe before.disk)
    (renamed : ∀ disk, before.disk.rename source target = .ok disk → safe disk) :
    Guards safe (perform (.rename source target)) before := by
  refine guards_perform good renamed ?_
  intro location content part disk isWrite
  cases isWrite

theorem guards_remove {location : Location} (good : safe before.disk)
    (removed : ∀ disk, before.disk.remove location = .ok disk → safe disk) :
    Guards safe (perform (.remove location)) before := by
  refine guards_perform good removed ?_
  intro location content part disk isWrite
  cases isWrite

theorem guards_createDirectory {location : Location} (good : safe before.disk)
    (created : ∀ disk, before.disk.createDirectory location = .ok disk → safe disk) :
    Guards safe (perform (.createDirectory location)) before := by
  refine guards_perform good created ?_
  intro location content part disk isWrite
  cases isWrite

/-- Creating a name below a directory is safe when the disk is, without the name and with it. -/
theorem guards_createDirectories_child {directory : Location} {place : Place} {name : String}
    (leads : before.disk.Leads directory place) (named : isName name = true)
    (good : safe before.disk)
    (creates : ∀ disk, before.disk.createDirectory (directory.child name) = .ok disk → safe disk) :
    Guards safe (createDirectories (directory.child name)) before := by
  rcases createDirectories_child directory named with ⟨makeRoom, shape⟩
  rw [shape]
  unfold createWithin
  apply guards_bind (guards_disk good)
  intro disk between isDisk
  rcases (ends_disk_iff ..).1 isDisk with ⟨isBefore, isStart⟩
  rw [isBefore, isStart]
  split
  · exact guards_createDirectory good creates
  next isNotFound => exact absurd isNotFound (leads.createDirectory_child_ne_notFound named)
  next =>
    apply guards_bind (guards_disk good)
    intro disk between isDisk
    rw [((ends_disk_iff ..).1 isDisk).2]
    split
    · exact guards_pure good ()
    · exact guards_throw good _

/-! ## Many steps -/

variable {Item : Type}

/-- Steps that are safe from where the ones before them end are safe together. -/
theorem guards_forM (holds : Session → Prop) (each : Item → Work Unit) (items : List Item)
    (good : ∀ session, holds session → safe session.disk)
    (guards : ∀ item ∈ items, ∀ before, holds before → Guards safe (each item) before)
    (keeps : ∀ item ∈ items, ∀ before after, holds before → (each item).Ends before () after →
      holds after) :
    ∀ {before : Session}, holds before → Guards safe (items.forM each) before := by
  induction items with
  | nil =>
      intro before start
      exact guards_pure (good before start) ()
  | cons first rest inductionHypothesis =>
      intro before start
      show Guards safe (each first >>= fun _ => rest.forM each) before
      apply guards_bind (guards first (List.mem_cons_self ..) before start)
      intro _ between ends
      apply inductionHypothesis
      · exact fun item member => guards item (List.mem_cons_of_mem _ member)
      · exact fun item member => keeps item (List.mem_cons_of_mem _ member)
      · exact keeps first (List.mem_cons_self ..) before between start ends

end Work

end DocStore
