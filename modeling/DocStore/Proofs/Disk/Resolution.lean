import DocStore.Proofs.Disk.Standing
import DocStore.Proofs.Outcome
import DocStore.Proofs.Text.Split

/-!
Contract: where locations lead.

Pieces that all lead to directories can be followed on places alone, so where
they lead depends on nothing but which places hold directories. A location with
a name behind such pieces resolves to the place of that name, provided that the
path and the name are short enough.

Owns: `Disk.isName`, `Disk.enter`, `Disk.Leads`, `Disk.Admits`, and resolving in
terms of them.
-/

namespace DocStore

namespace Disk

/-! ## Names -/

/-- Whether a text can name an entry of a directory: it is not empty, neither one dot nor two, and
has no slash and no NUL in it. -/
def isName (name : String) : Bool :=
  !Location.isIdle name && name != ".." && !name.toList.contains '/' &&
    !name.toList.contains '\x00'

theorem isName_iff (name : String) :
    isName name = true ↔ Location.isIdle name = false ∧ name ≠ ".." ∧ '/' ∉ name.toList ∧
      '\x00' ∉ name.toList := by
  unfold isName
  simp [and_assoc]

/-- A text of more than two characters names an entry if it has no slash and no NUL in it. -/
theorem isName_of_length {name : String} (long : 2 < name.toList.length)
    (slashless : '/' ∉ name.toList) (plain : '\x00' ∉ name.toList) : isName name = true := by
  have different : ∀ short : String, short.toList.length ≤ 2 → name ≠ short := by
    intro short isShort same
    rw [same] at long
    omega
  rw [isName_iff]
  refine ⟨?_, different ".." (by decide), slashless, plain⟩
  unfold Location.isIdle
  rw [beq_eq_false_iff_ne.2 (different "" (by decide)),
    beq_eq_false_iff_ne.2 (different "." (by decide))]
  rfl

/-! ## Following pieces -/

/-- The place that pieces lead to from a place, if each of them leads to a directory. -/
def enter (disk : Disk) (place : Place) : List String → Option Place
  | [] => some place
  | piece :: rest =>
      if Location.isIdle piece then disk.enter place rest
      else if piece = ".." then disk.enter place.dropLast rest
      else if nameLimit < piece.utf8ByteSize then none
      else if disk.standing? (place ++ [piece]) = some .directory then
        disk.enter (place ++ [piece]) rest
      else none

theorem enter_append (disk : Disk) (place : Place) (before after : List String) :
    disk.enter place (before ++ after) =
      (disk.enter place before).bind fun reached => disk.enter reached after := by
  induction before generalizing place with
  | nil => rfl
  | cons piece rest inductionHypothesis =>
      rw [List.cons_append, enter, enter]
      repeat' split
      all_goals first | exact inductionHypothesis _ | rfl

theorem enter_idle (disk : Disk) (place : Place) {pieces : List String}
    (idle : pieces.all Location.isIdle = true) : disk.enter place pieces = some place := by
  induction pieces with
  | nil => rfl
  | cons piece rest inductionHypothesis =>
      rw [List.all_cons, Bool.and_eq_true] at idle
      rw [enter, if_pos idle.1]
      exact inductionHypothesis idle.2

/-- Directories that stay where they are can be followed as before. -/
theorem enter_mono {before after : Disk}
    (kept : ∀ place, before.standing? place = some .directory →
      after.standing? place = some .directory) {pieces : List String} :
    ∀ {place reached : Place}, before.enter place pieces = some reached →
      after.enter place pieces = some reached := by
  induction pieces with
  | nil => exact fun entered => entered
  | cons piece rest inductionHypothesis =>
      intro place reached entered
      rw [enter] at entered ⊢
      split
      next idle =>
        rw [if_pos idle] at entered
        exact inductionHypothesis entered
      next notIdle =>
        rw [if_neg notIdle] at entered
        split
        next up =>
          rw [if_pos up] at entered
          exact inductionHypothesis entered
        next notUp =>
          rw [if_neg notUp] at entered
          split
          next long =>
            rw [if_pos long] at entered
            cases entered
          next short =>
            rw [if_neg short] at entered
            split at entered
            next present =>
              rw [if_pos (kept _ present)]
              exact inductionHypothesis entered
            next => cases entered

theorem standing?_dropLast {disk : Disk} {place : Place}
    (isDirectory : disk.standing? place = some .directory) :
    disk.standing? place.dropLast = some .directory := by
  rcases List.eq_nil_or_concat place with isRoot | ⟨parent, name, shape⟩
  · rw [isRoot]
    exact disk.standing?_root
  · rw [shape, List.concat_eq_append] at isDirectory ⊢
    rw [List.dropLast_concat]
    exact standing?_parent (by rw [isDirectory]; exact Option.some_ne_none _)

/-- What can be followed from a directory ends in one. -/
theorem standing?_of_enter {disk : Disk} {pieces : List String} :
    ∀ {place reached : Place}, disk.standing? place = some .directory →
      disk.enter place pieces = some reached → disk.standing? reached = some .directory := by
  induction pieces with
  | nil =>
      intro place reached within entered
      rw [← Option.some.inj entered]
      exact within
  | cons piece rest inductionHypothesis =>
      intro place reached within entered
      rw [enter] at entered
      split at entered
      · exact inductionHypothesis within entered
      · split at entered
        · exact inductionHypothesis (standing?_dropLast within) entered
        · split at entered
          · cases entered
          · split at entered
            next present => exact inductionHypothesis present entered
            next => cases entered

/-! ## Trails -/

theorem walk_cons (trail : Trail) (here : Node) (piece : String) (rest : List String) :
    walk trail here (piece :: rest) =
      if Location.isIdle piece then walk trail here rest
      else if piece = ".." then
        match trail with
        | [] => walk [] here rest
        | (_, above) :: outer => walk outer above rest
      else if nameLimit < piece.utf8ByteSize then .error .nameTooLong
      else if rest.all Location.isIdle then
        arrive (Trail.place ((piece, here) :: trail)) (here.child? piece) rest
      else
        match here.child? piece with
        | some (.directory entries) => walk ((piece, here) :: trail) (.directory entries) rest
        | some (.file _) => .error .notADirectory
        | none => .error .notFound :=
  walk.eq_def trail here (piece :: rest)

theorem place_cons (name : String) (above : Node) (outer : Trail) :
    Trail.place ((name, above) :: outer) = outer.place ++ [name] := by
  simp [Trail.place]

/-- A trail holds the directories of a disk on the way from its root to a node. -/
def Fits (disk : Disk) : Trail → Node → Prop
  | [], here => here = disk.root
  | (name, above) :: outer, here => disk.Fits outer above ∧ above.child? name = some here

theorem Fits.node? {disk : Disk} {trail : Trail} {here : Node} (fits : disk.Fits trail here) :
    disk.node? trail.place = some here := by
  induction trail generalizing here with
  | nil =>
      have isRoot : here = disk.root := fits
      rw [isRoot]
      rfl
  | cons step outer inductionHypothesis =>
      obtain ⟨name, above⟩ := step
      have atOuter := inductionHypothesis fits.1
      unfold Disk.node? at *
      rw [place_cons, Node.at?_append, atOuter, Option.bind_some, Node.at?_cons, fits.2]
      rfl

theorem Fits.standing?_child {disk : Disk} {trail : Trail} {here : Node}
    (fits : disk.Fits trail here) (name : String) :
    disk.standing? (trail.place ++ [name]) = (here.child? name).map Node.standing := by
  have atTrail := fits.node?
  unfold standing? Disk.node? at *
  rw [Node.at?_append, atTrail, Option.bind_some, Node.at?_cons]
  cases here.child? name <;> rfl

/-- Walking pieces that end with a name is following those before it. -/
theorem walk_concat {disk : Disk} {name : String} (named : isName name = true)
    (base : List String) : ∀ (trail : Trail) (here : Node), disk.Fits trail here →
    match disk.enter trail.place base with
    | some parent =>
        walk trail here (base ++ [name]) =
          if nameLimit < name.utf8ByteSize then .error .nameTooLong else .ok (parent ++ [name])
    | none => ∃ fault, walk trail here (base ++ [name]) = .error fault := by
  obtain ⟨notIdle, notUp, -, -⟩ := (isName_iff name).1 named
  have isLast : ∀ rest : List String, (rest ++ [name]).all Location.isIdle = false := by
    intro rest
    simp [notIdle]
  induction base with
  | nil =>
      intro trail here fits
      rw [List.nil_append, walk_cons, if_neg (by rw [notIdle]; exact Bool.false_ne_true),
        if_neg notUp, enter]
      simp only [List.all_nil, reduceIte, arrive, place_cons]
  | cons piece rest inductionHypothesis =>
      intro trail here fits
      rw [List.cons_append, walk_cons, enter]
      by_cases idle : Location.isIdle piece = true
      · rw [if_pos idle, if_pos idle]
        exact inductionHypothesis trail here fits
      · rw [if_neg idle, if_neg idle]
        by_cases up : piece = ".."
        · rw [if_pos up, if_pos up]
          cases trail with
          | nil =>
              have isRoot : here = disk.root := fits
              subst isRoot
              exact inductionHypothesis [] disk.root rfl
          | cons step outer =>
              obtain ⟨last, above⟩ := step
              rw [place_cons, List.dropLast_concat]
              exact inductionHypothesis outer above fits.1
        · rw [if_neg up, if_neg up]
          by_cases long : nameLimit < piece.utf8ByteSize
          · rw [if_pos long, if_pos long]
            exact ⟨.nameTooLong, rfl⟩
          · rw [if_neg long, if_neg long, fits.standing?_child piece]
            simp only [isLast, Bool.false_eq_true, reduceIte]
            cases found : here.child? piece with
            | none => exact ⟨.notFound, rfl⟩
            | some node =>
                cases node with
                | file content => exact ⟨.notADirectory, rfl⟩
                | directory entries =>
                    have deeper : disk.Fits ((piece, here) :: trail) (.directory entries) :=
                      ⟨fits, found⟩
                    rw [← place_cons piece here trail]
                    exact inductionHypothesis _ _ deeper

theorem arrive_eq_ok {place reached : Place} {found : Option Node} {idle : List String}
    (arrived : arrive place found idle = .ok reached) : reached = place := by
  unfold arrive at arrived
  split at arrived
  · exact (Except.ok.inj arrived).symm
  · exact (Except.ok.inj arrived).symm
  · cases arrived
  · split at arrived
    · cases arrived
    · exact (Except.ok.inj arrived).symm

/-- A walk that arrives at a directory arrives at its last piece. -/
theorem Fits.arrive_eq_ok_iff {disk : Disk} {trail : Trail} {here : Node} {piece : String}
    {idle : List String} {reached : Place} (fits : disk.Fits trail here)
    (isDirectory : disk.standing? reached = some .directory) :
    arrive (Trail.place ((piece, here) :: trail)) (here.child? piece) idle = .ok reached ↔
      reached = trail.place ++ [piece] ∧
        disk.standing? (trail.place ++ [piece]) = some .directory := by
  rw [place_cons]
  constructor
  · intro arrived
    have isPlace := arrive_eq_ok arrived
    rw [isPlace] at isDirectory
    exact ⟨isPlace, isDirectory⟩
  · rintro ⟨isPlace, present⟩
    rw [fits.standing?_child piece] at present
    obtain ⟨node, found, shape⟩ := Option.map_eq_some_iff.1 present
    obtain ⟨entries, isNode⟩ := (Node.standing_eq_directory_iff node).1 shape
    rw [found, isNode, isPlace]
    cases idle <;> rfl

/-- Walking to a directory is following the pieces. -/
theorem walk_eq_ok_iff_enter {disk : Disk} {pieces : List String} :
    ∀ (trail : Trail) (here : Node) {reached : Place}, disk.Fits trail here →
      disk.standing? reached = some .directory →
      (walk trail here pieces = .ok reached ↔ disk.enter trail.place pieces = some reached) := by
  induction pieces with
  | nil =>
      intro trail here reached fits isDirectory
      rw [walk, enter]
      simp
  | cons piece rest inductionHypothesis =>
      intro trail here reached fits isDirectory
      rw [walk_cons, enter]
      by_cases idle : Location.isIdle piece = true
      · rw [if_pos idle, if_pos idle]
        exact inductionHypothesis trail here fits isDirectory
      · rw [if_neg idle, if_neg idle]
        by_cases up : piece = ".."
        · rw [if_pos up, if_pos up]
          cases trail with
          | nil =>
              have isRoot : here = disk.root := fits
              subst isRoot
              exact inductionHypothesis [] disk.root rfl isDirectory
          | cons step outer =>
              obtain ⟨last, above⟩ := step
              rw [place_cons, List.dropLast_concat]
              exact inductionHypothesis outer above fits.1 isDirectory
        · rw [if_neg up, if_neg up]
          by_cases long : nameLimit < piece.utf8ByteSize
          · rw [if_pos long, if_pos long]
            simp
          · rw [if_neg long, if_neg long]
            by_cases ends : rest.all Location.isIdle = true
            · -- Nothing but idle pieces follows, so the walk ends at this piece.
              rw [if_pos ends, fits.arrive_eq_ok_iff isDirectory, enter_idle disk _ ends]
              by_cases present : disk.standing? (trail.place ++ [piece]) = some .directory
              · rw [if_pos present, Option.some.injEq, and_iff_left present]
                exact eq_comm
              · rw [if_neg present]
                simp [present]
            · rw [if_neg ends, fits.standing?_child piece]
              cases found : here.child? piece with
              | none => simp
              | some node =>
                  cases node with
                  | file content => simp [Node.standing]
                  | directory entries =>
                      have deeper : disk.Fits ((piece, here) :: trail) (.directory entries) :=
                        ⟨fits, found⟩
                      rw [← place_cons piece here trail]
                      simpa [Node.standing] using inductionHypothesis _ _ deeper isDirectory

/-! ## Locations -/

/-- A location whose pieces all lead to directories, the last of them to a place. -/
def Leads (disk : Disk) (location : Location) (place : Place) : Prop :=
  disk.enter [] location.pieces = some place

theorem Leads.isDirectory {disk : Disk} {location : Location} {place : Place}
    (leads : disk.Leads location place) : disk.standing? place = some .directory :=
  standing?_of_enter disk.standing?_root leads

theorem Leads.mono {before after : Disk} {location : Location} {place : Place}
    (leads : before.Leads location place)
    (kept : ∀ place, before.standing? place = some .directory →
      after.standing? place = some .directory) : after.Leads location place :=
  enter_mono kept leads

theorem resolve_eq_ok_iff (disk : Disk) (location : Location) (place : Place) :
    disk.resolve location = .ok place ↔
      checkLocation location = .ok () ∧ walk [] disk.root location.pieces = .ok place := by
  unfold resolve
  rw [bind_eq_ok_iff]
  constructor
  · rintro ⟨_, allowed, walked⟩
    exact ⟨allowed, walked⟩
  · rintro ⟨allowed, walked⟩
    exact ⟨(), allowed, walked⟩

/-- A location that resolves to a directory leads there. -/
theorem leads_of_resolve {disk : Disk} {location : Location} {place : Place}
    (resolved : disk.resolve location = .ok place)
    (isDirectory : disk.standing? place = some .directory) : disk.Leads location place := by
  have walked := ((resolve_eq_ok_iff disk location place).1 resolved).2
  exact (walk_eq_ok_iff_enter [] disk.root rfl isDirectory).1 walked

theorem Leads.resolve {disk : Disk} {location : Location} {place : Place}
    (leads : disk.Leads location place) (allowed : checkLocation location = .ok ()) :
    disk.resolve location = .ok place := by
  refine (resolve_eq_ok_iff disk location place).2 ⟨allowed, ?_⟩
  exact (walk_eq_ok_iff_enter [] disk.root rfl leads.isDirectory).2 leads

/-- Whether a name below a location can be asked for: the path and the name are not too long. -/
def Admits (directory : Location) (name : String) : Prop :=
  checkLocation (directory.child name) = .ok () ∧ name.utf8ByteSize ≤ nameLimit

theorem pieces_child (directory : Location) {name : String} (named : isName name = true) :
    ∃ base, (directory.child name).pieces = base ++ [name] ∧
      ∀ disk : Disk, disk.enter [] base = disk.enter [] directory.pieces := by
  obtain ⟨-, -, slashless, -⟩ := (isName_iff name).1 named
  unfold Location.child
  rw [Text.splitAt_of_not_mem slashless]
  simp only [List.length_singleton, Nat.lt_irrefl, false_and, reduceIte]
  split
  next endsEmpty =>
    obtain ⟨base, shape⟩ := List.getLast?_eq_some_iff.1 endsEmpty
    rw [shape, List.dropLast_concat]
    refine ⟨base, rfl, fun disk => ?_⟩
    rw [enter_append]
    cases disk.enter [] base <;> rfl
  next => exact ⟨directory.pieces, rfl, fun disk => rfl⟩

/-- A name below a location that leads to a directory resolves to its place there. -/
theorem Leads.resolve_child {disk : Disk} {directory : Location} {place : Place}
    (leads : disk.Leads directory place) {name : String} (named : isName name = true) :
    disk.resolve (directory.child name) =
      (do
        checkLocation (directory.child name)
        if nameLimit < name.utf8ByteSize then .error .nameTooLong else .ok (place ++ [name])) := by
  obtain ⟨base, shape, same⟩ := pieces_child directory named
  have walked := walk_concat named base [] disk.root rfl
  have entered : disk.enter (Trail.place []) base = some place := (same disk).trans leads
  rw [entered] at walked
  unfold Disk.resolve
  rw [shape, walked]

theorem Leads.resolve_child_eq_ok_iff {disk : Disk} {directory : Location} {place : Place}
    (leads : disk.Leads directory place) {name : String} (named : isName name = true)
    (reached : Place) :
    disk.resolve (directory.child name) = .ok reached ↔
      Admits directory name ∧ reached = place ++ [name] := by
  rw [leads.resolve_child named, bind_eq_ok_iff]
  unfold Admits
  constructor
  · rintro ⟨_, allowed, found⟩
    split at found
    · cases found
    next short => exact ⟨⟨allowed, by omega⟩, (Except.ok.inj found).symm⟩
  · rintro ⟨⟨allowed, short⟩, isPlace⟩
    refine ⟨(), allowed, ?_⟩
    rw [if_neg (by omega), isPlace]

/-- A directory below a location that leads to a directory is led to. -/
theorem Leads.child {disk : Disk} {directory : Location} {place : Place}
    (leads : disk.Leads directory place) {name : String} (named : isName name = true)
    (short : name.utf8ByteSize ≤ nameLimit)
    (present : disk.standing? (place ++ [name]) = some .directory) :
    disk.Leads (directory.child name) (place ++ [name]) := by
  obtain ⟨base, shape, same⟩ := pieces_child directory named
  obtain ⟨notIdle, notUp, -, -⟩ := (isName_iff name).1 named
  have entered : disk.enter [] base = some place := (same disk).trans leads
  unfold Leads
  rw [shape, enter_append, entered, Option.bind_some, enter, if_neg (by simp [notIdle]),
    if_neg notUp, if_neg (by omega), if_pos present, enter]

/-- Whether a text makes an entry's name of whatever it ends, unless there is a NUL in it. -/
def IsEnding (ending : String) : Prop := 2 < ending.toList.length ∧ '/' ∉ ending.toList

instance (ending : String) : Decidable (IsEnding ending) := by
  unfold IsEnding
  infer_instance

/-- A text behind a location that ends like a name resolves to a name in a directory, wherever its
slashes and dots lead. -/
theorem resolve_child_append {disk : Disk} {directory : Location} {stem ending : String}
    {place : Place} (isEnding : IsEnding ending)
    (resolved : disk.resolve (directory.child (stem ++ ending)) = .ok place) :
    ∃ parent name, place = parent ++ [name] ∧ isName name = true ∧
      disk.standing? parent = some .directory := by
  obtain ⟨long, slashless⟩ := isEnding
  obtain ⟨front, last, plainLast, pieces⟩ := Text.splitAt_append stem slashless
  have shape : ∃ base, (directory.child (stem ++ ending)).pieces = base ++ [last ++ ending] := by
    unfold Location.child
    rw [pieces]
    simp only
    split
    · exact ⟨front, rfl⟩
    · split
      · exact ⟨directory.pieces.dropLast ++ front, by rw [List.append_assoc]⟩
      · exact ⟨directory.pieces ++ front, by rw [List.append_assoc]⟩
  obtain ⟨base, shape⟩ := shape
  obtain ⟨allowed, walked⟩ := (resolve_eq_ok_iff ..).1 resolved
  have named : isName (last ++ ending) = true := by
    apply isName_of_length
    · rw [String.toList_append, List.length_append]
      omega
    · rw [String.toList_append, List.mem_append, not_or]
      exact ⟨plainLast, slashless⟩
    · intro hasNul
      unfold checkLocation at allowed
      rw [shape] at allowed
      split at allowed
      · cases allowed
      next noNul =>
        refine noNul (List.any_eq_true.2 ⟨last ++ ending, ?_, List.elem_iff.2 hasNul⟩)
        exact List.mem_append_right _ (List.mem_singleton_self _)
  have result := walk_concat named base [] disk.root rfl
  rw [shape] at walked
  cases entered : disk.enter (Trail.place []) base with
  | none =>
      rw [entered] at result
      obtain ⟨fault, failed⟩ := result
      rw [failed] at walked
      cases walked
  | some parent =>
      rw [entered] at result
      rw [result] at walked
      split at walked
      · cases walked
      next =>
        refine ⟨parent, last ++ ending, (Except.ok.inj walked).symm, named, ?_⟩
        exact standing?_of_enter disk.standing?_root entered

end Disk

end DocStore
