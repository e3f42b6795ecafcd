import DocStore.Proofs.DataDirectory.RoundTrip
import DocStore.Proofs.Disk.Making

/-!
Contract: a store that was opened can be saved where it was opened.

A root that a store was opened from is either there, and then all its
directories belong to databases of that store, or it is missing, and then a save
begins by making it. In both cases a store that has at least these databases is
saved below the root and loaded from it again.

Owns: `Node.isNamed`, `DataDirectory.IsRoot` and saving below an opened root.
-/

namespace DocStore

/-! ## Names on a disk -/

namespace Node

mutual

/-- Whether everything below a node stands under a name. -/
def isNamed : Node → Bool
  | file _ => true
  | directory entries => areNamed entries

def areNamed : List (String × Node) → Bool
  | [] => true
  | (name, node) :: rest => Disk.isName name && node.isNamed && areNamed rest

end

theorem isNamed_of_find? {name : String} {node : Node} {entries : List (String × Node)}
    (named : areNamed entries = true) (found : Entries.find? name entries = some node) :
    Disk.isName name = true ∧ node.isNamed = true := by
  induction entries with
  | nil => cases found
  | cons entry rest inductionHypothesis =>
      rw [areNamed, Bool.and_eq_true, Bool.and_eq_true] at named
      rcases named with ⟨⟨first, below⟩, others⟩
      rw [Entries.find?] at found
      split at found
      next same =>
        rw [Std.LawfulEqOrd.eq_of_compare same, ← Option.some.inj found]
        exact ⟨first, below⟩
      next => exact inductionHypothesis others found

theorem isName_of_mem_place : ∀ {place : Place} {node : Node}, node.isNamed = true →
    node.at? place ≠ none → ∀ name ∈ place, Disk.isName name = true := by
  intro place
  induction place with
  | nil => exact fun _ _ name member => absurd member List.not_mem_nil
  | cons first rest inductionHypothesis =>
      intro node named present name member
      rw [at?_cons] at present
      cases node with
      | file content => exact absurd rfl present
      | directory entries =>
          rw [isNamed] at named
          cases found : Entries.find? first entries with
          | none =>
              rw [child?, Node.entries, found] at present
              exact absurd rfl present
          | some below =>
              rw [child?, Node.entries, found, Option.bind_some] at present
              rcases isNamed_of_find? named found with ⟨firstNamed, belowNamed⟩
              rcases List.mem_cons.1 member with isFirst | inRest
              · rw [isFirst]
                exact firstNamed
              · exact inductionHypothesis belowNamed present name inRest

end Node

namespace DataDirectory

open Disk Work

variable {disk : Disk} {root : Location} {store : Store}

/-! ## Roots -/

/-- A location that is there, or that can be made without a step upward. -/
def IsRoot (disk : Disk) (root : Location) : Prop :=
  disk.exists? root = true ∨ checkLocation root = .ok () ∧ ".." ∉ root.pieces

variable [NumeralReader]

/-- A root that a store was opened from is settled, with the databases of the store. -/
theorem settled_of_opened (named : disk.root.isNamed = true) (isThere : disk.exists? root = true)
    (opened : load disk root = .ok store) : ∃ place, Settled disk root place (Knows store) := by
  have loaded := opened
  unfold load at loaded
  rw [if_pos isThere, bind_eq_ok_iff] at loaded
  rcases loaded with ⟨directories, areDirectories, -⟩
  unfold databaseDirectories onDisk at areDirectories
  rw [bind_eq_ok_iff] at areDirectories
  rcases areDirectories with ⟨names, listed, -⟩
  cases isList : disk.list root with
  | error fault =>
      rw [isList] at listed
      cases listed
  | ok found =>
      rcases directory_of_list isList with ⟨place, resolved, isDirectory, -⟩
      have settled : Settled disk root place fun _ => True := by
        refine ⟨((resolve_eq_ok_iff ..).1 resolved).1, leads_of_resolve resolved isDirectory, ?_,
          fun _ _ _ => trivial⟩
        intro rest present name member
        rw [ne_eq, standing?_eq_none_iff] at present
        exact Node.isName_of_mem_place named present name (List.mem_append_right place member)
      exact ⟨place, settled.of_load opened⟩

theorem load_of_missing (missing : disk.exists? root = false) :
    load disk root = .ok Store.empty := by
  unfold load
  rw [missing]
  rfl

/-- What was opened has names that a disk takes and is nested within the limit. -/
theorem hasNames_of_opened (named : disk.root.isNamed = true)
    (opened : load disk root = .ok store) : HasNames store ∧ store.Every Shallow := by
  cases isThere : disk.exists? root with
  | true =>
      rcases settled_of_opened named isThere opened with ⟨place, settled⟩
      refine ⟨(hasNames_iff store).2 fun name isKnown => ?_, settled.shallow_of_load opened⟩
      rcases settled.find?_load opened name with ⟨⟨isDirectory, -⟩, -⟩ | ⟨-, absent⟩
      · apply settled.named [name] _ name (List.mem_singleton_self name)
        rw [isDirectory]
        exact Option.some_ne_none _
      · unfold Knows SortedMap.contains at isKnown
        rw [absent] at isKnown
        cases isKnown
  | false =>
      rw [load_of_missing isThere] at opened
      rw [← Except.ok.inj opened]
      exact ⟨(hasNames_iff Store.empty).2 (fun name isKnown => nomatch isKnown),
        Store.every_empty Shallow⟩

/-- All names of a store that was opened are plain but the empty one and those that end like a file
of indexed fields without its last ending. -/
theorem hasPlainNames_of_opened (named : disk.root.isNamed = true)
    (opened : load disk root = .ok store)
    (spelled : ∀ entry ∈ store.databases.toList, ∀ inner ∈ entry.2.toList,
      inner.1 ≠ "" ∧ Text.endsWith inner.1 fieldsEnding = false) : HasPlainNames store := by
  cases isThere : disk.exists? root with
  | true =>
      rcases settled_of_opened named isThere opened with ⟨place, settled⟩
      intro entry member inner innerMember
      rcases spelled entry member inner innerMember with ⟨occupied, bare⟩
      rcases settled.exists_file_of_load opened (collection_of_mem member innerMember) with
        ⟨-, file, isRead, isCollection, -⟩
      rw [← isCollection] at occupied bare ⊢
      have stemmed := isStem_collectionRead (settled.isName_of_isRead isRead) occupied
      exact (isPlain_iff _).2 ⟨stemmed, not_endsWith_collectionRead file, bare⟩
  | false =>
      rw [load_of_missing isThere] at opened
      rw [← Except.ok.inj opened]
      intro entry member
      cases member

/-- A save below a root that a store was opened from begins at a settled root, once the root has
been made. -/
theorem settled_of_save {next : Store} {after : Session} (named : disk.root.isNamed = true)
    (isRoot : IsRoot disk root) (opened : load disk root = .ok store)
    (more : ∀ name, Knows store name → Knows next name)
    (saved : (save next root).Ends (Session.start disk) () after) :
    ∃ start place, Settled start.disk root place (Knows next) ∧
      (save next root).Ends start () after := by
  cases isThere : disk.exists? root with
  | true =>
      rcases settled_of_opened named isThere opened with ⟨place, settled⟩
      exact ⟨Session.start disk, place, settled.imp more, saved⟩
  | false =>
      rcases isRoot with present | ⟨allowed, straight⟩
      · rw [isThere] at present
        cases present
      · rcases save_cases saved with ⟨created, isCreated, filled⟩
        have empty := list_of_createDirectories_missing straight allowed isThere isCreated
        rcases settled_of_empty empty (Knows next) with ⟨place, settled⟩
        refine ⟨created, place, settled, ?_⟩
        have unchanged := ends_createDirectories_self settled.leads settled.allowed
        exact (ends_bind_iff ..).2 ⟨(), created, unchanged, filled⟩

/-- A store with at least the databases of the one that was opened is loaded from its place exactly
when it is shallow. -/
theorem load_of_save_opened [Json.ReadsBack] {next : Store} {session : Session}
    (named : disk.root.isNamed = true) (isRoot : IsRoot disk root)
    (opened : load disk root = .ok store) (more : ∀ name, Knows store name → Knows next name)
    (reachable : next.Reachable) (nextNamed : HasNames next) (plain : HasPlainNames next)
    (saved : (save next root).runOn disk = (.ok (), session)) :
    load session.disk root = .ok next.normalised ∧ next.Every Shallow ∨
      (∃ fault, load session.disk root = .error fault) ∧ ¬next.Every Shallow := by
  rcases settled_of_save named isRoot opened more saved with ⟨start, place, settled, ends⟩
  exact settled.load_of_save_cases reachable nextNamed plain ends

end DataDirectory

end DocStore
