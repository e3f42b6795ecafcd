import DocStore.Proofs.Disk.Actions
import DocStore.Proofs.Disk.Working

/-!
Contract: making sure that a directory is there.

Creating a directory that is there changes nothing. Creating one in a directory
that is there adds it if it is missing; the directories above it are not
touched.

Owns: what `Work.createDirectories` comes to at an existing directory and one
name below it.
-/

namespace DocStore

namespace Disk

theorem checkLocation_eq_ok_iff (location : Location) :
    checkLocation location = .ok () ↔
      (∀ piece ∈ location.pieces, '\x00' ∉ piece.toList) ∧ location.pieces ≠ [""] ∧
        location.byteSize ≤ pathLimit := by
  unfold checkLocation
  have noNul : (location.pieces.any fun piece => piece.toList.contains '\x00') = false ↔
      ∀ piece ∈ location.pieces, '\x00' ∉ piece.toList := by
    simp
  split
  next hasNul =>
    refine iff_of_false (fun same => nomatch same) ?_
    rintro ⟨plain, -⟩
    rw [noNul.2 plain] at hasNul
    cases hasNul
  next plain =>
    rw [Bool.not_eq_true, noNul] at plain
    split
    next isEmpty => exact iff_of_false (fun same => nomatch same) fun good => good.2.1 isEmpty
    next notEmpty =>
      split
      next long =>
        refine iff_of_false (fun same => nomatch same) ?_
        rintro ⟨-, -, short⟩
        omega
      next short => exact iff_of_true rfl ⟨plain, notEmpty, by omega⟩

end Disk

namespace Location

/-- Without slashes at its end a location that is not all idle ends in a piece with characters. -/
theorem withoutEndSlashes_shape {location : Location}
    (busy : location.pieces.all isIdle = false) :
    ∃ front last blanks, location.withoutEndSlashes = ⟨front ++ [last]⟩ ∧ last ≠ "" ∧
      blanks.all isIdle = true ∧ location.pieces = (front ++ [last]) ++ blanks := by
  have parts := List.takeWhile_append_dropWhile (p := fun piece => piece == "")
    (l := location.pieces.reverse)
  have blank : (location.pieces.reverse.takeWhile fun piece => piece == "").all
      (fun piece => piece == "") = true := List.all_takeWhile
  have kept := List.head?_dropWhile_not (fun piece => piece == "") location.pieces.reverse
  unfold withoutEndSlashes
  generalize location.pieces.reverse.takeWhile (fun piece => piece == "") = blanks at parts blank
  generalize location.pieces.reverse.dropWhile (fun piece => piece == "") = left at parts kept
  have idle : blanks.reverse.all isIdle = true := by
    rw [List.all_reverse]
    rw [List.all_eq_true] at blank ⊢
    intro piece member
    unfold isIdle
    rw [blank piece member, Bool.true_or]
  have shape : location.pieces = left.reverse ++ blanks.reverse := by
    rw [← List.reverse_append, parts, List.reverse_reverse]
  cases left with
  | nil =>
      rw [List.reverse_nil, List.nil_append] at shape
      rw [shape, idle] at busy
      cases busy
  | cons last above =>
      refine ⟨above.reverse, last, blanks.reverse, ?_, ?_, idle, ?_⟩
      · simp
      · simpa using kept
      · rw [shape, List.reverse_cons]

theorem withoutEndSlashes_of_last {location : Location} {base : List String} {last : String}
    (shape : location.pieces = base ++ [last]) (notBlank : last ≠ "") :
    location.withoutEndSlashes = location := by
  obtain ⟨pieces⟩ := location
  have isShape : pieces = base ++ [last] := shape
  subst isShape
  unfold withoutEndSlashes
  simp [notBlank]

/-- More pieces make a location longer. -/
theorem byteSize_le_append (front back : List String) :
    (⟨front⟩ : Location).byteSize ≤ (⟨front ++ back⟩ : Location).byteSize := by
  have grows : ∀ (pieces : List String) {less more : Nat}, less ≤ more →
      pieces.foldr (fun piece size => piece.utf8ByteSize + size) less ≤
        pieces.foldr (fun piece size => piece.utf8ByteSize + size) more := by
    intro pieces less more order
    induction pieces with
    | nil => exact order
    | cons piece rest inductionHypothesis => exact Nat.add_le_add_left inductionHypothesis _
  have covers : ∀ (pieces : List String) (start : Nat),
      start ≤ pieces.foldr (fun piece size => piece.utf8ByteSize + size) start := by
    intro pieces start
    induction pieces with
    | nil => exact Nat.le_refl start
    | cons piece rest inductionHypothesis =>
        rw [List.foldr_cons]
        omega
  unfold byteSize
  rw [List.foldr_append, List.length_append]
  apply grows
  apply Nat.le_trans _ (covers back _)
  show front.length - 1 ≤ front.length + back.length - 1
  omega

/-- A location that can be asked for can be asked for without the slashes at its end. -/
theorem checkLocation_withoutEndSlashes {location : Location}
    (busy : location.pieces.all isIdle = false)
    (allowed : Disk.checkLocation location = .ok ()) :
    Disk.checkLocation location.withoutEndSlashes = .ok () := by
  obtain ⟨front, last, blanks, isShort, notBlank, -, shape⟩ := withoutEndSlashes_shape busy
  rw [Disk.checkLocation_eq_ok_iff] at allowed ⊢
  obtain ⟨plain, -, short⟩ := allowed
  rw [isShort]
  refine ⟨?_, ?_, ?_⟩
  · intro piece member
    apply plain
    rw [shape]
    exact List.mem_append_left _ member
  · intro isBlank
    cases front with
    | nil => exact notBlank (List.singleton_inj.1 isBlank)
    | cons first more => simp at isBlank
  · obtain ⟨pieces⟩ := location
    have isShape : pieces = (front ++ [last]) ++ blanks := shape
    rw [isShape] at short
    exact Nat.le_trans (byteSize_le_append _ blanks) short

end Location

namespace Disk

variable {disk : Disk} {directory : Location} {place : Place} {name : String}

theorem Leads.withoutEndSlashes (leads : disk.Leads directory place)
    (busy : directory.pieces.all Location.isIdle = false) :
    disk.Leads directory.withoutEndSlashes place := by
  obtain ⟨front, last, blanks, isShort, -, idle, shape⟩ := Location.withoutEndSlashes_shape busy
  unfold Leads at leads ⊢
  rw [shape, enter_append] at leads
  rw [isShort]
  cases entered : disk.enter [] (front ++ [last]) with
  | none =>
      rw [entered] at leads
      cases leads
  | some reached =>
      rw [entered, Option.bind_some, enter_idle disk reached idle] at leads
      exact leads

/-- A directory that is there cannot be created. -/
theorem Leads.createDirectory_self (leads : disk.Leads directory place)
    (allowed : checkLocation directory = .ok ())
    (busy : directory.pieces.all Location.isIdle = false) :
    disk.createDirectory directory = .error .alreadyExists := by
  have resolved := (leads.withoutEndSlashes busy).resolve
    (Location.checkLocation_withoutEndSlashes busy allowed)
  obtain ⟨entries, atPlace⟩ := (standing?_eq_directory_iff disk place).1 leads.isDirectory
  unfold createDirectory
  rw [allowed, resolved]
  simp only [bind, Except.bind, atPlace]

/-- A name below a directory is created there if the name and the path are not too long and nothing
has the name. -/
theorem Leads.createDirectory_child (leads : disk.Leads directory place)
    (named : isName name = true) :
    disk.createDirectory (directory.child name) =
      (do
        checkLocation (directory.child name)
        if nameLimit < name.utf8ByteSize then .error .nameTooLong
        else if disk.standing? (place ++ [name]) = none then
          .ok (disk.put (place ++ [name]) (.directory []))
        else .error .alreadyExists) := by
  obtain ⟨base, shape, -⟩ := pieces_child directory named
  have notBlank : name ≠ "" := by
    intro isBlank
    rw [isBlank] at named
    cases named
  unfold createDirectory
  rw [Location.withoutEndSlashes_of_last shape notBlank, leads.resolve_child named]
  cases checkLocation (directory.child name) with
  | error fault => rfl
  | ok checked =>
      simp only [bind, Except.bind]
      by_cases long : nameLimit < name.utf8ByteSize
      · rw [if_pos long, if_pos long]
      · rw [if_neg long, if_neg long]
        simp only [standing?_eq_none_iff]
        cases disk.node? (place ++ [name]) <;> rfl

theorem checkLocation_child_ne_notFound (directory : Location) (named : isName name = true) :
    checkLocation (directory.child name) ≠ .error .notFound := by
  obtain ⟨base, shape, -⟩ := pieces_child directory named
  intro isNotFound
  unfold checkLocation at isNotFound
  rw [shape] at isNotFound
  split at isNotFound
  · cases isNotFound
  · split at isNotFound
    next isBlank =>
      cases base with
      | nil =>
          rw [List.singleton_inj.1 isBlank] at named
          cases named
      | cons first more => simp at isBlank
    next =>
      split at isNotFound
      · cases isNotFound
      · cases isNotFound

/-- Creating a name below a directory never wants for the directories above it. -/
theorem Leads.createDirectory_child_ne_notFound (leads : disk.Leads directory place)
    (named : isName name = true) :
    disk.createDirectory (directory.child name) ≠ .error .notFound := by
  intro isNotFound
  rw [leads.createDirectory_child named] at isNotFound
  cases checked : checkLocation (directory.child name) with
  | error fault =>
      rw [checked] at isNotFound
      apply checkLocation_child_ne_notFound directory named
      rw [checked]
      exact congrArg _ (Except.error.inj isNotFound)
  | ok _ =>
      rw [checked] at isNotFound
      simp only [bind, Except.bind] at isNotFound
      split at isNotFound
      · cases isNotFound
      · split at isNotFound
        · cases isNotFound
        · cases isNotFound

/-- A name that was created below a directory is the only change. -/
theorem Leads.created_child {after : Disk} (leads : disk.Leads directory place)
    (named : isName name = true)
    (created : disk.createDirectory (directory.child name) = .ok after) :
    Admits directory name ∧ ∀ other, after.standing? other =
      if other = place ++ [name] then some .directory else disk.standing? other := by
  rw [leads.createDirectory_child named, bind_eq_ok_iff] at created
  obtain ⟨_, allowed, result⟩ := created
  split at result
  · cases result
  next short =>
    split at result
    next absent =>
      refine ⟨⟨allowed, by omega⟩, fun other => ?_⟩
      rw [← Except.ok.inj result]
      exact standing?_put (.directory []) rfl leads.isDirectory (by simp [absent]) other
    next => cases result

end Disk

namespace Work

open Disk

variable {directory : Location} {place : Place} {name : String} {before after : Session}

/-- Work that ends with a directory in place either performed its creation, or first made room for
it, or found it there. -/
theorem createWithin_cases {makeRoom : Work Unit} {location : Location}
    (ends : (createWithin makeRoom location).Ends before () after) :
    (perform (.createDirectory location)).Ends before () after ∨
      (before.disk.createDirectory location = .error .notFound ∧ ∃ middle,
        makeRoom.Ends before () middle ∧
          ((perform (.createDirectory location)).Ends middle () after ∨
            (middle.disk.isDirectory location = true ∧ after = middle))) ∨
      (before.disk.isDirectory location = true ∧ after = before) := by
  have finished : ∀ {start : Session} {otherwise : Work Unit},
      (do unless (← Work.disk).isDirectory location do otherwise).Ends start () after →
        otherwise.Ends start () after ∨
          (start.disk.isDirectory location = true ∧ after = start) := by
    intro start otherwise ends
    rcases (ends_bind_iff ..).1 ends with ⟨disk, between, isDisk, ends⟩
    rcases (ends_disk_iff ..).1 isDisk with ⟨rfl, rfl⟩
    split at ends
    next isDirectory => exact .inr ⟨isDirectory, ((ends_pure_iff ..).1 ends).2⟩
    next => exact .inl ends
  unfold createWithin at ends
  rcases (ends_bind_iff ..).1 ends with ⟨disk, between, isDisk, ends⟩
  rcases (ends_disk_iff ..).1 isDisk with ⟨rfl, rfl⟩
  split at ends
  · exact .inl ends
  next isNotFound =>
    rcases (ends_bind_iff ..).1 ends with ⟨_, middle, made, ends⟩
    exact .inr (.inl ⟨isNotFound, middle, made, finished ends⟩)
  next fault _ _ =>
    rcases finished ends with thrown | unchanged
    · exact False.elim ((ends_throw_iff ..).1 thrown)
    · exact .inr (.inr unchanged)

theorem ends_createWithin_of_directory (makeRoom : Work Unit) {location : Location}
    (refused : before.disk.createDirectory location = .error .alreadyExists)
    (isDirectory : before.disk.isDirectory location = true) :
    (createWithin makeRoom location).Ends before () before := by
  unfold createWithin
  refine (ends_bind_iff ..).2 ⟨before.disk, before, (ends_disk_iff ..).2 ⟨rfl, rfl⟩, ?_⟩
  simp only [refused]
  refine (ends_bind_iff ..).2 ⟨before.disk, before, (ends_disk_iff ..).2 ⟨rfl, rfl⟩, ?_⟩
  rw [if_pos isDirectory]
  exact (ends_pure_iff ..).2 ⟨rfl, rfl⟩

/-- Creating a directory that is there changes nothing. -/
theorem ends_createDirectories_self (leads : before.disk.Leads directory place)
    (allowed : checkLocation directory = .ok ()) :
    (createDirectories directory).Ends before () before := by
  unfold createDirectories
  simp only [List.all_reverse]
  split
  next => exact (ends_pure_iff ..).2 ⟨rfl, rfl⟩
  next busy =>
    rw [Bool.not_eq_true] at busy
    apply ends_createWithin_of_directory _ (leads.createDirectory_self allowed busy)
    rw [isDirectory_eq_true_iff]
    exact ⟨place, leads.resolve allowed, leads.isDirectory⟩

theorem createDirectories_child (directory : Location) (named : isName name = true) :
    ∃ makeRoom, createDirectories (directory.child name) =
      createWithin makeRoom (directory.child name) := by
  obtain ⟨base, shape, -⟩ := pieces_child directory named
  have busy : (directory.child name).pieces.reverse.all Location.isIdle = false := by
    rw [shape]
    simp [((isName_iff name).1 named).1]
  refine ⟨createBackwards
    ((directory.child name).pieces.reverse.dropWhile Location.isIdle).tail, ?_⟩
  unfold createDirectories
  simp only [busy, Bool.false_eq_true, reduceIte]

/-- Work that ends with a named directory below an existing one has put at most that directory on
the disk. -/
theorem createDirectories_child_effect (leads : before.disk.Leads directory place)
    (named : isName name = true)
    (ends : (createDirectories (directory.child name)).Ends before () after) :
    Admits directory name ∧ ∀ other, after.disk.standing? other =
      if other = place ++ [name] then some .directory else before.disk.standing? other := by
  obtain ⟨makeRoom, shape⟩ := createDirectories_child directory named
  rw [shape] at ends
  rcases createWithin_cases ends with performed | ⟨isNotFound, -⟩ | ⟨isDirectory, unchanged⟩
  · exact leads.created_child named ((ends_perform_iff ..).1 performed).1
  · exact absurd isNotFound (leads.createDirectory_child_ne_notFound named)
  · obtain ⟨reached, resolved, present⟩ := (isDirectory_eq_true_iff ..).1 isDirectory
    obtain ⟨admitted, isPlace⟩ := (leads.resolve_child_eq_ok_iff named reached).1 resolved
    refine ⟨admitted, fun other => ?_⟩
    rw [unchanged]
    split
    next same => rw [same, ← isPlace, present]
    next => rfl

theorem ends_createDirectories_child (leads : before.disk.Leads directory place)
    (named : isName name = true) (admitted : Admits directory name)
    (present : before.disk.standing? (place ++ [name]) = some .directory) :
    (createDirectories (directory.child name)).Ends before () before :=
  ends_createDirectories_self (leads.child named admitted.2 present) admitted.1

end Work

end DocStore
