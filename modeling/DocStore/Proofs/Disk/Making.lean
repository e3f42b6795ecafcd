import DocStore.Proofs.Disk.Creation

/-!
Contract: making a directory that is missing.

A location that never leads upward names the same place on every disk: its
pieces without the idle ones. Creating a directory puts it there and touches
nothing else. Making room for it only adds directories that are fewer names
deep, so a directory that was missing is empty once it has been made.

Owns: `Disk.namesIn`, and `Work.createDirectories` at a location where nothing
stands.
-/

namespace DocStore

namespace Disk

/-- The names among pieces, which are those that lead anywhere. -/
def namesIn (pieces : List String) : Place := pieces.filter fun piece => !Location.isIdle piece

theorem namesIn_cons_of_idle {piece : String} (idle : Location.isIdle piece = true)
    (rest : List String) : namesIn (piece :: rest) = namesIn rest := by
  unfold namesIn
  rw [List.filter_cons_of_neg (by simp [idle])]

theorem namesIn_cons_of_busy {piece : String} (busy : Location.isIdle piece = false)
    (rest : List String) : namesIn (piece :: rest) = piece :: namesIn rest := by
  unfold namesIn
  rw [List.filter_cons_of_pos (by simp [busy])]

theorem namesIn_of_all_idle {pieces : List String} (idle : pieces.all Location.isIdle = true) :
    namesIn pieces = [] := by
  rw [List.all_eq_true] at idle
  unfold namesIn
  rw [List.filter_eq_nil_iff]
  intro piece member
  simp [idle piece member]

/-- Behind the idle pieces at the front stands the first name. -/
theorem exists_dropWhile_idle {pieces : List String}
    (busy : pieces.all Location.isIdle = false) :
    ∃ first rest, pieces.dropWhile Location.isIdle = first :: rest ∧
      namesIn pieces = first :: namesIn rest := by
  induction pieces with
  | nil => cases busy
  | cons piece rest inductionHypothesis =>
      cases idle : Location.isIdle piece with
      | true =>
          rw [List.all_cons, idle, Bool.true_and] at busy
          rw [List.dropWhile_cons_of_pos idle, namesIn_cons_of_idle idle]
          exact inductionHypothesis busy
      | false =>
          rw [List.dropWhile_cons_of_neg (by rw [idle]; exact Bool.false_ne_true)]
          exact ⟨piece, rest, rfl, namesIn_cons_of_busy idle rest⟩

theorem length_namesIn_reverse (pieces : List String) :
    (namesIn pieces.reverse).length = (namesIn pieces).length := by
  unfold namesIn
  rw [List.filter_reverse, List.length_reverse]

theorem namesIn_append (front back : List String) :
    namesIn (front ++ back) = namesIn front ++ namesIn back :=
  List.filter_append ..

/-- Pieces without steps upward lead to the names among them, in a directory that is there. -/
theorem walk_straight {disk : Disk} {pieces : List String} (straight : ".." ∉ pieces) :
    ∀ (trail : Trail) (here : Node) {place : Place}, disk.Fits trail here →
      disk.standing? trail.place = some .directory → walk trail here pieces = .ok place →
      place = trail.place ++ namesIn pieces ∧
        disk.standing? place.dropLast = some .directory ∧
        ∀ name ∈ namesIn pieces, name.utf8ByteSize ≤ nameLimit := by
  induction pieces with
  | nil =>
      intro trail here place fits within walked
      rw [walk, Except.ok.injEq] at walked
      rw [← walked]
      exact ⟨(List.append_nil _).symm, standing?_dropLast within,
        fun name member => absurd member List.not_mem_nil⟩
  | cons piece rest inductionHypothesis =>
      intro trail here place fits within walked
      rw [List.mem_cons, not_or] at straight
      rcases straight with ⟨notUp, restStraight⟩
      rw [walk_cons] at walked
      cases idle : Location.isIdle piece with
      | true =>
          rw [if_pos idle] at walked
          rw [namesIn_cons_of_idle idle]
          exact inductionHypothesis restStraight trail here fits within walked
      | false =>
          rw [if_neg (by rw [idle]; exact Bool.false_ne_true), if_neg (Ne.symm notUp)] at walked
          rw [namesIn_cons_of_busy idle]
          split at walked
          next => cases walked
          next short =>
            split at walked
            next isLast =>
              have isPlace := arrive_eq_ok walked
              rw [place_cons] at isPlace
              rw [isPlace, namesIn_of_all_idle isLast, List.dropLast_concat]
              refine ⟨rfl, within, fun name member => ?_⟩
              rw [List.mem_singleton.1 member]
              omega
            next =>
              split at walked
              next entries found =>
                have deeper : disk.standing? (Trail.place ((piece, here) :: trail)) =
                    some .directory := by
                  rw [place_cons, fits.standing?_child, found]
                  rfl
                rcases inductionHypothesis restStraight ((piece, here) :: trail) _ ⟨fits, found⟩
                  deeper walked with ⟨isPlace, parent, areShort⟩
                rw [place_cons, List.append_assoc] at isPlace
                refine ⟨isPlace, parent, fun name member => ?_⟩
                rcases List.mem_cons.1 member with isFirst | inRest
                · rw [isFirst]
                  omega
                · exact areShort name inRest
              next => cases walked
              next => cases walked

theorem resolve_straight {disk : Disk} {location : Location} {place : Place}
    (straight : ".." ∉ location.pieces) (resolved : disk.resolve location = .ok place) :
    place = namesIn location.pieces ∧ disk.standing? place.dropLast = some .directory ∧
      ∀ name ∈ namesIn location.pieces, name.utf8ByteSize ≤ nameLimit :=
  walk_straight straight [] disk.root rfl disk.standing?_root
    ((resolve_eq_ok_iff ..).1 resolved).2

/-- Short names can be followed to a directory that stands at their place. -/
theorem enter_straight {disk : Disk} {pieces : List String} (straight : ".." ∉ pieces)
    (short : ∀ name ∈ namesIn pieces, name.utf8ByteSize ≤ nameLimit) :
    ∀ (place : Place), disk.standing? (place ++ namesIn pieces) = some .directory →
      disk.enter place pieces = some (place ++ namesIn pieces) := by
  induction pieces with
  | nil => exact fun place _ => congrArg some (List.append_nil place).symm
  | cons piece rest inductionHypothesis =>
      intro place isDirectory
      rw [List.mem_cons, not_or] at straight
      rcases straight with ⟨notUp, restStraight⟩
      rw [enter]
      cases idle : Location.isIdle piece with
      | true =>
          rw [namesIn_cons_of_idle idle] at short isDirectory ⊢
          rw [if_pos rfl]
          exact inductionHypothesis restStraight short place isDirectory
      | false =>
          rw [namesIn_cons_of_busy idle] at short isDirectory ⊢
          have firstShort := short piece (List.mem_cons_self ..)
          rw [List.append_cons place piece (namesIn rest)] at isDirectory ⊢
          have isThere : disk.standing? (place ++ [piece]) = some .directory := by
            cases more : namesIn rest with
            | nil =>
                rw [more, List.append_nil] at isDirectory
                exact isDirectory
            | cons next others =>
                rw [more] at isDirectory
                apply standing?_below_eq_directory
                rw [isDirectory]
                exact Option.some_ne_none _
          rw [if_neg Bool.false_ne_true, if_neg (Ne.symm notUp), if_neg (by omega),
            if_pos isThere]
          exact inductionHypothesis restStraight
            (fun name member => short name (List.mem_cons_of_mem _ member)) _ isDirectory

theorem createDirectory_straight {disk next : Disk} {location : Location}
    (straight : ".." ∉ location.pieces) (busy : location.pieces.all Location.isIdle = false)
    (created : disk.createDirectory location = .ok next) :
    (∀ name ∈ namesIn location.pieces, name.utf8ByteSize ≤ nameLimit) ∧
      disk.standing? (namesIn location.pieces) = none ∧
      ∀ other, next.standing? other =
        if other = namesIn location.pieces then some .directory else disk.standing? other := by
  rcases Location.withoutEndSlashes_shape busy with ⟨front, last, blanks, isShort, -, idle, shape⟩
  have sameNames : namesIn location.pieces = namesIn (front ++ [last]) := by
    rw [shape, namesIn_append, namesIn_of_all_idle idle, List.append_nil]
  have shortStraight : ".." ∉ front ++ [last] := fun member =>
    straight (shape ▸ List.mem_append_left blanks member)
  unfold createDirectory at created
  rcases bind_eq_ok_iff.1 created with ⟨-, -, created⟩
  rcases bind_eq_ok_iff.1 created with ⟨place, resolved, created⟩
  rw [isShort] at resolved
  rcases resolve_straight shortStraight resolved with ⟨isPlace, within, areShort⟩
  rw [sameNames, ← isPlace]
  split at created
  next => cases created
  next absent =>
    rw [← standing?_eq_none_iff] at absent
    refine ⟨isPlace ▸ areShort, absent, fun other => ?_⟩
    rw [← Except.ok.inj created]
    rcases List.eq_nil_or_concat place with isRoot | ⟨parent, name, isConcat⟩
    · rw [isRoot, disk.standing?_root] at absent
      cases absent
    · rw [List.concat_eq_append] at isConcat
      rw [isConcat, List.dropLast_concat] at within
      rw [isConcat] at absent ⊢
      exact standing?_put (.directory []) rfl within (by rw [absent]; simp) other

/-- A directory that has just been made is empty, because nothing stood below its place. -/
theorem list_of_createDirectory_straight {disk next : Disk} {location : Location}
    (straight : ".." ∉ location.pieces) (busy : location.pieces.all Location.isIdle = false)
    (allowed : checkLocation location = .ok ())
    (created : disk.createDirectory location = .ok next) : next.list location = .ok [] := by
  rcases createDirectory_straight straight busy created with ⟨short, absent, effect⟩
  have isThere : next.standing? (namesIn location.pieces) = some .directory := by
    rw [effect, if_pos rfl]
  have leads : next.Leads location (namesIn location.pieces) :=
    enter_straight straight short [] isThere
  rcases list_of_directory (leads.resolve allowed) isThere with ⟨names, listed, members⟩
  rw [listed]
  apply congrArg Except.ok
  apply List.eq_nil_iff_forall_not_mem.2
  intro name member
  have present := (members name).1 member
  rw [effect, if_neg (by simp)] at present
  have below := standing?_parent present
  rw [absent] at below
  cases below

end Disk

namespace Work

open Disk

/-- Making room adds directories that are at most as many names deep as there are names. -/
theorem createBackwards_spares {above : List String} (straight : ".." ∉ above) :
    ∀ {before after : Session}, (createBackwards above).Ends before () after →
      ∀ {other : Place}, (namesIn above).length < other.length →
        after.disk.standing? other = before.disk.standing? other := by
  induction above with
  | nil =>
      intro before after ends other _
      rw [((ends_pure_iff ..).1 ends).2]
  | cons piece above inductionHypothesis =>
      intro before after ends other deep
      have aboveStraight : ".." ∉ above := fun member => straight (List.mem_cons_of_mem _ member)
      rw [createBackwards] at ends
      cases idle : Location.isIdle piece with
      | true =>
          rw [if_pos idle] at ends
          rw [namesIn_cons_of_idle idle] at deep
          exact inductionHypothesis aboveStraight ends deep
      | false =>
          rw [if_neg (by rw [idle]; exact Bool.false_ne_true)] at ends
          rw [namesIn_cons_of_busy idle, List.length_cons] at deep
          have created : ∀ {start : Session},
              (perform (.createDirectory ⟨(piece :: above).reverse⟩)).Ends start () after →
                after.disk.standing? other = start.disk.standing? other := by
            intro start performed
            have effect := (createDirectory_straight
              (fun member => straight (List.mem_reverse.1 member)) (by simp [idle])
              ((ends_perform_iff ..).1 performed).1).2.2
            have longer : other ≠ namesIn (piece :: above).reverse := by
              intro same
              rw [same, length_namesIn_reverse, namesIn_cons_of_busy idle, List.length_cons] at deep
              exact Nat.lt_irrefl _ deep
            exact (effect other).trans (if_neg longer)
          rcases createWithin_cases ends with
            performed | ⟨-, middle, made, finished⟩ | ⟨-, unchanged⟩
          · exact created performed
          · have spared := inductionHypothesis aboveStraight made (Nat.lt_of_succ_lt deep)
            rcases finished with performed | ⟨-, unchanged⟩
            · exact (created performed).trans spared
            · rw [unchanged]
              exact spared
          · rw [unchanged]

/-- A directory that was missing is there and empty once it has been made. -/
theorem list_of_createDirectories_missing {root : Location} {before after : Session}
    (straight : ".." ∉ root.pieces) (allowed : checkLocation root = .ok ())
    (missing : before.disk.exists? root = false)
    (ends : (createDirectories root).Ends before () after) : after.disk.list root = .ok [] := by
  have notThere : ∀ {place : Place}, ¬before.disk.Leads root place := by
    intro place leads
    rw [leads.exists? allowed] at missing
    cases missing
  cases busy : root.pieces.all Location.isIdle with
  | true => exact absurd (enter_idle before.disk [] busy) notThere
  | false =>
      have reverseBusy : root.pieces.reverse.all Location.isIdle = false := by
        rw [List.all_reverse]
        exact busy
      rcases exists_dropWhile_idle reverseBusy with ⟨first, above, dropped, names⟩
      have aboveStraight : ".." ∉ above := by
        intro member
        have inDropped : ".." ∈ root.pieces.reverse.dropWhile Location.isIdle := by
          rw [dropped]
          exact List.mem_cons_of_mem _ member
        exact straight (List.mem_reverse.1 ((List.dropWhile_suffix _).subset inDropped))
      have fewer : (namesIn above).length < (namesIn root.pieces).length := by
        rw [← length_namesIn_reverse root.pieces, names, List.length_cons]
        exact Nat.lt_succ_self _
      have created : ∀ {start : Session}, (perform (.createDirectory root)).Ends start () after →
          after.disk.list root = .ok [] := fun performed =>
        list_of_createDirectory_straight straight busy allowed ((ends_perform_iff ..).1 performed).1
      unfold createDirectories at ends
      simp only [reverseBusy, Bool.false_eq_true, reduceIte, dropped, List.tail_cons] at ends
      rcases createWithin_cases ends with
        performed | ⟨-, middle, made, finished⟩ | ⟨isDirectory, -⟩
      · exact created performed
      · rcases finished with performed | ⟨isDirectory, -⟩
        · exact created performed
        · rcases (isDirectory_eq_true_iff ..).1 isDirectory with ⟨place, resolved, present⟩
          rcases resolve_straight straight resolved with ⟨isPlace, -, short⟩
          rw [isPlace, createBackwards_spares aboveStraight made fewer] at present
          exact absurd (enter_straight straight short [] present) notThere
      · rcases (isDirectory_eq_true_iff ..).1 isDirectory with ⟨place, resolved, present⟩
        exact absurd (leads_of_resolve resolved present) notThere

end Work

end DocStore
