import DocStore.Disk.Basic
import DocStore.Proofs.SortedMap.Reading

/-!
Contract: a disk as a map from places to what stands there.

A place holds nothing, a directory or a file with its content. Putting a file or
an empty directory into a directory changes that one place, and so does erasing
a file; every other place answers as before.

Owns: `Standing`, `Disk.standing?` and its laws for putting and erasing.
-/

namespace DocStore

/-- What stands at a place, apart from what stands below it. -/
inductive Standing where
  | directory
  | file (content : ByteArray)

instance (found : Option Standing) : Decidable (found = some .directory) :=
  match found with
  | none => isFalse (by intro same; cases same)
  | some .directory => isTrue rfl
  | some (.file _) => isFalse (by intro same; cases same)

namespace Node

def standing : Node → Standing
  | file content => .file content
  | directory _ => .directory

theorem at?_append (place rest : Place) (node : Node) :
    node.at? (place ++ rest) = (node.at? place).bind (at? rest) := by
  induction place generalizing node with
  | nil => rfl
  | cons name place inductionHypothesis =>
      rw [List.cons_append, at?, at?, Option.bind_assoc]
      congr 1
      funext present
      exact inductionHypothesis present

theorem at?_cons (name : String) (rest : Place) (node : Node) :
    node.at? (name :: rest) = (node.child? name).bind (at? rest) := rfl

/-- Nothing is below a node without entries. -/
theorem at?_of_bare {node : Node} (bare : node.entries = []) (name : String) (rest : Place) :
    node.at? (name :: rest) = none := by
  rw [at?_cons, child?, bare]
  rfl

theorem standing_eq_directory_iff (node : Node) :
    node.standing = .directory ↔ ∃ entries, node = directory entries := by
  cases node with
  | file content => simp [standing]
  | directory entries => simp [standing]

/-- The node at a place after another name on the way was given a node. -/
theorem standing_insert (entries : List (String × Node)) (name : String) (new : Node)
    (other : Place) :
    ((directory (Entries.insert name new entries)).at? other).map standing =
      match other with
      | [] => some .directory
      | first :: rest =>
          if first = name then (new.at? rest).map standing
          else ((directory entries).at? (first :: rest)).map standing := by
  cases other with
  | nil => rfl
  | cons first rest =>
      simp only [at?_cons, child?, Node.entries]
      by_cases same : first = name
      · rw [if_pos same, same, Entries.find?_insert_self]
        rfl
      · rw [if_neg same, Entries.find?_insert_of_ne same]

/-- A change of one place below an entry is a change of one place. -/
theorem standing_insert_below {entries : List (String × Node)} {first : String}
    {present changed : Node} {place : Place} {new : Option Standing}
    (found : (directory entries).child? first = some present)
    (change : ∀ rest, (changed.at? rest).map standing =
      if rest = place then new else (present.at? rest).map standing) (other : Place) :
    ((directory (Entries.insert first changed entries)).at? other).map standing =
      if other = first :: place then new else ((directory entries).at? other).map standing := by
  rw [standing_insert]
  cases other with
  | nil => rfl
  | cons second rest =>
      by_cases same : second = first
      · subst same
        simp only [reduceIte, List.cons.injEq, true_and]
        rw [change rest, at?_cons, found]
        rfl
      · simp [same]

theorem at?_cons_eq_some_iff (name : String) (rest : Place) (node present : Node) :
    node.at? (name :: rest) = some present ↔
      ∃ child, node.child? name = some child ∧ child.at? rest = some present := by
  rw [at?_cons, Option.bind_eq_some_iff]

/-- A node without entries that is put into a directory changes what stands there alone. -/
theorem standing_put {new : Node} (leaf : new.entries = []) (parent : Place) (name : String) :
    ∀ (node : Node) (other : Place),
      (node.at? parent).map standing = some .directory →
      (∀ present, node.at? (parent ++ [name]) = some present → present.entries = []) →
      ((node.put (parent ++ [name]) new).at? other).map standing =
        if other = parent ++ [name] then some new.standing
        else (node.at? other).map standing := by
  induction parent with
  | nil =>
      intro node other within bare
      obtain ⟨entries, shape⟩ := (standing_eq_directory_iff node).1 (Option.some.inj within)
      subst shape
      show ((directory (Entries.insert name new entries)).at? other).map standing = _
      rw [standing_insert]
      cases other with
      | nil => rfl
      | cons first rest =>
          by_cases same : first = name
          · subst same
            cases rest with
            | nil => simp [at?]
            | cons second more =>
                -- Neither the old entry nor the new one has anything below it.
                have nothing : (directory entries).at? (first :: second :: more) = none := by
                  rw [at?_cons]
                  cases found : (directory entries).child? first with
                  | none => rfl
                  | some present =>
                      apply at?_of_bare
                      apply bare present
                      exact (at?_cons_eq_some_iff ..).2 ⟨present, found, rfl⟩
                simp [at?_of_bare leaf, nothing]
          · simp [same]
  | cons first parent inductionHypothesis =>
      intro node other within bare
      obtain ⟨last, atLast, isDirectory⟩ := Option.map_eq_some_iff.1 within
      obtain ⟨present, found, atParent⟩ := (at?_cons_eq_some_iff ..).1 atLast
      cases node with
      | file content => cases found
      | directory entries =>
          have step : (directory entries).put (first :: parent ++ [name]) new =
              directory (Entries.insert first (present.put (parent ++ [name]) new) entries) := by
            rw [List.cons_append, put, found]
            rfl
          rw [step]
          apply standing_insert_below found
          intro rest
          apply inductionHypothesis present rest
          · rw [atParent, Option.map_some, isDirectory]
          · intro inner atInner
            apply bare inner
            exact (at?_cons_eq_some_iff ..).2 ⟨present, found, atInner⟩

/-- Erasing a file changes what stands at its place alone. -/
theorem standing_erase (parent : Place) (name : String) :
    ∀ {node : Node} {content : ByteArray} (other : Place),
      node.at? (parent ++ [name]) = some (file content) →
      ((node.erase (parent ++ [name])).at? other).map standing =
        if other = parent ++ [name] then none else (node.at? other).map standing := by
  induction parent with
  | nil =>
      intro node content other present
      obtain ⟨child, found, isFile⟩ := (at?_cons_eq_some_iff ..).1 present
      have isChild : child = file content := Option.some.inj isFile
      subst isChild
      cases node with
      | file inner => cases found
      | directory entries =>
          have atName : Entries.find? name entries = some (file content) := found
          show ((directory (Entries.erase name entries)).at? other).map standing = _
          cases other with
          | nil => rfl
          | cons first rest =>
              rw [at?_cons, at?_cons, child?, child?, Node.entries, Node.entries]
              by_cases same : first = name
              · rw [same, Entries.find?_erase_self, atName]
                cases rest with
                | nil => simp
                | cons second more =>
                    have nothing : (file content).at? (second :: more) = none := at?_of_bare rfl ..
                    simp [nothing]
              · rw [Entries.find?_erase_of_ne same]
                simp [same]
  | cons first parent inductionHypothesis =>
      intro node content other present
      obtain ⟨inner, found, isFile⟩ := (at?_cons_eq_some_iff ..).1 present
      cases node with
      | file content => cases found
      | directory entries =>
          have step : (directory entries).erase (first :: parent ++ [name]) =
              directory (Entries.insert first (inner.erase (parent ++ [name])) entries) := by
            have atFirst : Entries.find? first entries = some inner := found
            cases parent <;> simp [erase, atFirst]
          rw [step]
          apply standing_insert_below found
          intro rest
          exact inductionHypothesis rest isFile

end Node

namespace Disk

/-- What stands at a place. -/
def standing? (disk : Disk) (place : Place) : Option Standing :=
  (disk.node? place).map Node.standing

theorem standing?_root (disk : Disk) : disk.standing? [] = some .directory := rfl

theorem standing?_eq_directory_iff (disk : Disk) (place : Place) :
    disk.standing? place = some .directory ↔
      ∃ entries, disk.node? place = some (.directory entries) := by
  unfold standing?
  cases disk.node? place with
  | none => simp
  | some node => cases node <;> simp [Node.standing]

theorem standing?_eq_file_iff (disk : Disk) (place : Place) (content : ByteArray) :
    disk.standing? place = some (.file content) ↔ disk.node? place = some (.file content) := by
  unfold standing?
  cases disk.node? place with
  | none => simp
  | some node => cases node <;> simp [Node.standing]

theorem standing?_eq_none_iff (disk : Disk) (place : Place) :
    disk.standing? place = none ↔ disk.node? place = none := by
  unfold standing?
  cases disk.node? place <;> simp

/-- Nothing stands below a place where nothing or a file stands. -/
theorem standing?_below_eq_directory {disk : Disk} {place : Place} {name : String}
    {rest : Place} (present : disk.standing? (place ++ name :: rest) ≠ none) :
    disk.standing? place = some .directory := by
  unfold standing? node? at *
  rw [Node.at?_append] at present
  cases found : disk.root.at? place with
  | none =>
      rw [found] at present
      exact absurd rfl present
  | some node =>
      cases node with
      | directory entries => rfl
      | file content =>
          rw [found, Option.bind_some, Node.at?_of_bare rfl] at present
          exact absurd rfl present

theorem standing?_parent {disk : Disk} {parent : Place} {name : String}
    (present : disk.standing? (parent ++ [name]) ≠ none) :
    disk.standing? parent = some .directory :=
  standing?_below_eq_directory present

/-- The names in a directory are those below which something stands. -/
theorem mem_names_iff {disk : Disk} {place : Place} {entries : List (String × Node)}
    (atPlace : disk.node? place = some (.directory entries)) (name : String) :
    name ∈ entries.map Prod.fst ↔ disk.standing? (place ++ [name]) ≠ none := by
  have isChild : disk.node? (place ++ [name]) = Entries.find? name entries := by
    unfold node? at *
    rw [Node.at?_append, atPlace, Option.bind_some, Node.at?_cons]
    show (Entries.find? name entries).bind _ = _
    cases Entries.find? name entries <;> rfl
  rw [ne_eq, standing?_eq_none_iff, isChild]
  clear atPlace isChild
  induction entries with
  | nil => simp [Entries.find?]
  | cons entry rest inductionHypothesis =>
      obtain ⟨other, node⟩ := entry
      by_cases order : compare name other = .eq
      · have same : name = other := Std.LawfulEqOrd.eq_of_compare order
        simp [same, Entries.find?]
      · have unequal : name ≠ other := fun same => order (by simp [same])
        simpa [Entries.find?, order, unequal] using inductionHypothesis

theorem root_put (disk : Disk) (parent : Place) (name : String) (new : Node) :
    (disk.put (parent ++ [name]) new).root = disk.root.put (parent ++ [name]) new := by
  unfold put root
  cases parent <;> rfl

theorem root_erase (disk : Disk) (parent : Place) (name : String) :
    (disk.erase (parent ++ [name])).root = disk.root.erase (parent ++ [name]) := by
  unfold erase root
  cases parent with
  | nil => rfl
  | cons first parent =>
      cases found : Entries.find? first disk.entries <;> cases parent <;>
        simp [Node.erase, found, Node.entries]

/-- Putting a file or an empty directory into a directory changes one place. -/
theorem standing?_put {disk : Disk} {parent : Place} {name : String} (new : Node)
    (leaf : new.entries = []) (within : disk.standing? parent = some .directory)
    (bare : disk.standing? (parent ++ [name]) ≠ some .directory) (other : Place) :
    (disk.put (parent ++ [name]) new).standing? other =
      if other = parent ++ [name] then some new.standing else disk.standing? other := by
  unfold standing? node? at *
  rw [root_put]
  refine Node.standing_put leaf parent name disk.root other within ?_
  intro present atPlace
  cases present with
  | file content => rfl
  | directory entries =>
      rw [atPlace] at bare
      exact absurd rfl bare

/-- Erasing a file changes one place. -/
theorem standing?_erase {disk : Disk} {parent : Place} {name : String} {content : ByteArray}
    (present : disk.standing? (parent ++ [name]) = some (.file content)) (other : Place) :
    (disk.erase (parent ++ [name])).standing? other =
      if other = parent ++ [name] then none else disk.standing? other := by
  rw [standing?_eq_file_iff] at present
  unfold standing? node? at *
  rw [root_erase]
  exact Node.standing_erase parent name other present

end Disk

end DocStore
