import DocStore.Proofs.Disk.Resolution

/-!
Contract: reading and changing a disk, told by what stands at places.

Reading a location is reading the place that it resolves to. An action that
succeeds on a file changes one place, or two when it renames, and leaves every
directory where it is.

Owns: one law for each reading and each action, and `Disk.SameDirectories`.
-/

namespace DocStore.Disk

/-! ## Reading -/

theorem exists?_eq_true_iff (disk : Disk) (location : Location) :
    disk.exists? location = true ↔
      ∃ place, disk.resolve location = .ok place ∧ disk.standing? place ≠ none := by
  unfold exists? look
  cases disk.resolve location with
  | error fault => simp [bind, Except.bind]
  | ok place =>
      cases found : disk.node? place <;> simp [bind, Except.bind, found, standing?]

/-- A directory that a location leads to is there. -/
theorem Leads.exists? {disk : Disk} {location : Location} {place : Place}
    (leads : disk.Leads location place) (allowed : checkLocation location = .ok ()) :
    disk.exists? location = true := by
  rw [exists?_eq_true_iff]
  refine ⟨place, leads.resolve allowed, ?_⟩
  rw [leads.isDirectory]
  exact Option.some_ne_none _

theorem isDirectory_eq_true_iff (disk : Disk) (location : Location) :
    disk.isDirectory location = true ↔
      ∃ place, disk.resolve location = .ok place ∧ disk.standing? place = some .directory := by
  unfold isDirectory look
  cases disk.resolve location with
  | error fault => simp [bind, Except.bind]
  | ok place =>
      cases found : disk.node? place with
      | none => simp [bind, Except.bind, found, standing?]
      | some node =>
          cases node <;> simp [bind, Except.bind, found, standing?, Node.standing, Node.isDirectory]

/-- A text that was written is read again. -/
theorem readText_of_file {disk : Disk} {location : Location} {place : Place} {text : String}
    (resolved : disk.resolve location = .ok place)
    (present : disk.standing? place = some (.file text.toUTF8)) :
    disk.readText location = .ok text := by
  rw [standing?_eq_file_iff] at present
  have read : String.fromUTF8? text.toUTF8 = some text := by
    unfold String.fromUTF8?
    rw [String.toUTF8_eq_toByteArray, dif_pos text.isValidUTF8]
    rfl
  unfold readText look
  rw [resolved]
  simp only [bind, Except.bind, present, read]

/-- A text is read off the file that holds it. -/
theorem file_of_readText {disk : Disk} {location : Location} {text : String}
    (read : disk.readText location = .ok text) :
    ∃ place, disk.resolve location = .ok place ∧
      disk.standing? place = some (.file text.toUTF8) := by
  unfold readText look at read
  rcases bind_eq_ok_iff.1 read with ⟨node, found, read⟩
  rcases bind_eq_ok_iff.1 found with ⟨place, resolved, isNode⟩
  rw [← Except.ok.inj isNode] at read
  refine ⟨place, resolved, (standing?_eq_file_iff ..).2 ?_⟩
  split at read
  · cases read
  · cases read
  next content atPlace =>
    rw [atPlace]
    unfold String.fromUTF8? at read
    split at read
    next valid isText =>
      split at isText
      next isValid =>
        rw [← Except.ok.inj read, ← Option.some.inj isText]
        rfl
      next => cases isText
    next => cases read

/-- Listing succeeds at a directory and gives the names below which something stands. -/
theorem list_of_directory {disk : Disk} {location : Location} {place : Place}
    (resolved : disk.resolve location = .ok place)
    (isDirectory : disk.standing? place = some .directory) :
    ∃ names, disk.list location = .ok names ∧
      ∀ name, name ∈ names ↔ disk.standing? (place ++ [name]) ≠ none := by
  obtain ⟨entries, atPlace⟩ := (standing?_eq_directory_iff disk place).1 isDirectory
  refine ⟨entries.map Prod.fst, ?_, mem_names_iff atPlace⟩
  unfold list
  rw [resolved]
  simp only [bind, Except.bind, atPlace]

theorem directory_of_list {disk : Disk} {location : Location} {names : List String}
    (listed : disk.list location = .ok names) :
    ∃ place, disk.resolve location = .ok place ∧ disk.standing? place = some .directory ∧
      ∀ name, name ∈ names ↔ disk.standing? (place ++ [name]) ≠ none := by
  unfold list at listed
  obtain ⟨place, resolved, found⟩ := bind_eq_ok_iff.1 listed
  split at found
  · cases found
  · cases found
  next entries atPlace =>
    have isNames := Except.ok.inj found
    refine ⟨place, resolved, (standing?_eq_directory_iff disk place).2 ⟨entries, atPlace⟩, ?_⟩
    rw [← isNames]
    exact mem_names_iff atPlace

/-! ## Actions -/

theorem write_eq_ok_iff (disk after : Disk) (location : Location) (content : ByteArray) :
    disk.write location content = .ok after ↔
      ∃ place, disk.resolve location = .ok place ∧ disk.standing? place ≠ some .directory ∧
        after = disk.put place (.file content) := by
  unfold write
  rw [bind_eq_ok_iff]
  refine exists_congr fun place => and_congr_right fun _ => ?_
  unfold standing?
  cases disk.node? place with
  | none => simp [eq_comm]
  | some node => cases node <;> simp [Node.standing, eq_comm]

theorem rename_eq_ok_iff (disk after : Disk) (source target : Location) :
    disk.rename source target = .ok after ↔
      ∃ sourcePlace targetPlace content, disk.resolve source = .ok sourcePlace ∧
        disk.resolve target = .ok targetPlace ∧
        disk.standing? sourcePlace = some (.file content) ∧
        disk.standing? targetPlace ≠ some .directory ∧
        after = (disk.erase sourcePlace).put targetPlace (.file content) := by
  unfold rename
  rw [bind_eq_ok_iff]
  refine exists_congr fun sourcePlace => ?_
  rw [bind_eq_ok_iff]
  unfold standing?
  cases disk.node? sourcePlace with
  | none => simp
  | some sourceNode =>
      cases sourceNode with
      | directory entries => simp [Node.standing]
      | file content =>
          constructor
          · rintro ⟨resolved, targetPlace, targetResolved, found⟩
            refine ⟨targetPlace, content, resolved, targetResolved, rfl, ?_⟩
            split at found
            · cases found
            · cases found
            · cases found
            next inner kept isFile notDirectory =>
              cases isFile
              refine ⟨?_, (Except.ok.inj found).symm⟩
              cases targetNode : disk.node? targetPlace with
              | none => simp
              | some node =>
                  cases node with
                  | file other => simp [Node.standing]
                  | directory entries => exact absurd targetNode (notDirectory entries)
          · rintro ⟨targetPlace, inner, resolved, targetResolved, isFile, notDirectory, isAfter⟩
            cases isFile
            refine ⟨resolved, targetPlace, targetResolved, ?_⟩
            rw [isAfter]
            cases targetNode : disk.node? targetPlace with
            | none => rfl
            | some node =>
                cases node with
                | file other => rfl
                | directory entries =>
                    rw [targetNode] at notDirectory
                    exact absurd rfl notDirectory

theorem remove_eq_ok_iff (disk after : Disk) (location : Location) :
    disk.remove location = .ok after ↔
      ∃ place content, disk.resolve location = .ok place ∧
        disk.standing? place = some (.file content) ∧ after = disk.erase place := by
  unfold remove
  rw [bind_eq_ok_iff]
  refine exists_congr fun place => ?_
  unfold standing?
  cases disk.node? place with
  | none => simp
  | some node => cases node <;> simp [Node.standing, eq_comm]

/-! ## Directories that stay -/

/-- Two disks with the same directories, where what is new stands in one of them under a name. -/
structure SameDirectories (before after : Disk) : Prop where
  directories : ∀ place, after.standing? place = some .directory ↔
    before.standing? place = some .directory
  named : ∀ place, after.standing? place ≠ none → before.standing? place ≠ none ∨
    ∃ parent name, place = parent ++ [name] ∧ isName name = true ∧
      before.standing? parent = some .directory

theorem SameDirectories.refl (disk : Disk) : SameDirectories disk disk where
  directories _ := Iff.rfl
  named _ present := .inl present

theorem SameDirectories.trans {first second third : Disk} (left : SameDirectories first second)
    (right : SameDirectories second third) : SameDirectories first third where
  directories place := (right.directories place).trans (left.directories place)
  named place present := by
    rcases right.named place present with inSecond | ⟨parent, name, shape, named, within⟩
    · exact left.named place inSecond
    · exact .inr ⟨parent, name, shape, named, (left.directories parent).1 within⟩

/-- A change at one place that is no directory before and after keeps the directories. -/
theorem sameDirectories_of_change {before after : Disk} {parent : Place} {name : String}
    {new : Option Standing} (named : isName name = true)
    (within : before.standing? parent = some .directory)
    (notBefore : before.standing? (parent ++ [name]) ≠ some .directory)
    (notAfter : new ≠ some .directory)
    (change : ∀ other, after.standing? other =
      if other = parent ++ [name] then new else before.standing? other) :
    SameDirectories before after where
  directories place := by
    rw [change]
    split
    next same =>
      rw [same]
      exact iff_of_false notAfter notBefore
    next => rfl
  named place present := by
    by_cases same : place = parent ++ [name]
    · exact .inr ⟨parent, name, same, named, within⟩
    · rw [change, if_neg same] at present
      exact .inl present

theorem sameDirectories_put {disk : Disk} {parent : Place} {name : String} (content : ByteArray)
    (named : isName name = true) (within : disk.standing? parent = some .directory)
    (notBefore : disk.standing? (parent ++ [name]) ≠ some .directory) :
    SameDirectories disk (disk.put (parent ++ [name]) (.file content)) :=
  sameDirectories_of_change named within notBefore (by simp [Node.standing])
    (standing?_put (.file content) rfl within notBefore)

theorem sameDirectories_erase {disk : Disk} {parent : Place} {name : String} {content : ByteArray}
    (named : isName name = true)
    (present : disk.standing? (parent ++ [name]) = some (.file content)) :
    SameDirectories disk (disk.erase (parent ++ [name])) := by
  have within : disk.standing? parent = some .directory :=
    standing?_parent (by rw [present]; exact Option.some_ne_none _)
  refine sameDirectories_of_change named within ?_ ?_ (standing?_erase present)
  · simp [present]
  · simp

/-! ## Names in a directory -/

theorem place_ne {place : Place} {name other : String} (different : name ≠ other) :
    place ++ [name] ≠ place ++ [other] := by
  intro same
  exact different (List.singleton_inj.1 (List.append_cancel_left same))

section Names

variable {disk after : Disk} {directory : Location} {place : Place} {name : String}

theorem Leads.exists?_child_eq_true_iff (leads : disk.Leads directory place)
    (named : isName name = true) :
    disk.exists? (directory.child name) = true ↔
      Admits directory name ∧ disk.standing? (place ++ [name]) ≠ none := by
  rw [exists?_eq_true_iff]
  constructor
  · rintro ⟨reached, resolved, present⟩
    obtain ⟨admitted, isPlace⟩ := (leads.resolve_child_eq_ok_iff named _).1 resolved
    rw [isPlace] at present
    exact ⟨admitted, present⟩
  · rintro ⟨admitted, present⟩
    exact ⟨_, (leads.resolve_child_eq_ok_iff named _).2 ⟨admitted, rfl⟩, present⟩

theorem Leads.write_child {content : ByteArray} (leads : disk.Leads directory place)
    (named : isName name = true)
    (written : disk.write (directory.child name) content = .ok after) :
    Admits directory name ∧ SameDirectories disk after ∧ ∀ other, after.standing? other =
      if other = place ++ [name] then some (.file content) else disk.standing? other := by
  obtain ⟨reached, resolved, notDirectory, isAfter⟩ := (write_eq_ok_iff ..).1 written
  obtain ⟨admitted, isPlace⟩ := (leads.resolve_child_eq_ok_iff named _).1 resolved
  rw [isPlace] at notDirectory isAfter
  rw [isAfter]
  exact ⟨admitted, sameDirectories_put content named leads.isDirectory notDirectory,
    standing?_put (.file content) rfl leads.isDirectory notDirectory⟩

theorem Leads.remove_child (leads : disk.Leads directory place) (named : isName name = true)
    (removed : disk.remove (directory.child name) = .ok after) (other : Place) :
    after.standing? other = if other = place ++ [name] then none else disk.standing? other := by
  obtain ⟨reached, content, resolved, present, isAfter⟩ := (remove_eq_ok_iff ..).1 removed
  obtain ⟨-, isPlace⟩ := (leads.resolve_child_eq_ok_iff named _).1 resolved
  rw [isPlace] at present isAfter
  rw [isAfter]
  exact standing?_erase present other

theorem Leads.sameDirectories_remove_child (leads : disk.Leads directory place)
    (named : isName name = true) (removed : disk.remove (directory.child name) = .ok after) :
    SameDirectories disk after := by
  obtain ⟨reached, content, resolved, present, isAfter⟩ := (remove_eq_ok_iff ..).1 removed
  obtain ⟨-, isPlace⟩ := (leads.resolve_child_eq_ok_iff named _).1 resolved
  rw [isPlace] at present isAfter
  rw [isAfter]
  exact sameDirectories_erase named present

/-- The names that are listed in a directory are those below which something stands. -/
theorem Leads.mem_list_iff {names : List String} (leads : disk.Leads directory place)
    (listed : disk.list directory = .ok names) (name : String) :
    name ∈ names ↔ disk.standing? (place ++ [name]) ≠ none := by
  obtain ⟨reached, resolved, -, members⟩ := directory_of_list listed
  have isPlace : reached = place := by
    have allowed := ((resolve_eq_ok_iff ..).1 resolved).1
    rw [leads.resolve allowed] at resolved
    exact (Except.ok.inj resolved).symm
  rw [isPlace] at members
  exact members name

/-- Renaming takes a file from one name to another in a directory. -/
theorem Leads.rename_child {source target : String} (leads : disk.Leads directory place)
    (sourceNamed : isName source = true) (targetNamed : isName target = true)
    (renamed : disk.rename (directory.child source) (directory.child target) = .ok after) :
    Admits directory target ∧ ∃ content,
      disk.standing? (place ++ [source]) = some (.file content) ∧
        ∀ other, after.standing? other =
          if other = place ++ [target] then some (.file content)
          else if other = place ++ [source] then none
          else disk.standing? other := by
  obtain ⟨sourcePlace, targetPlace, content, sourceResolved, targetResolved, present, notTarget,
    isAfter⟩ := (rename_eq_ok_iff ..).1 renamed
  obtain ⟨-, isSource⟩ := (leads.resolve_child_eq_ok_iff sourceNamed _).1 sourceResolved
  obtain ⟨admitted, isTarget⟩ := (leads.resolve_child_eq_ok_iff targetNamed _).1 targetResolved
  rw [isSource] at present isAfter
  rw [isTarget] at notTarget isAfter
  have erased := sameDirectories_erase sourceNamed present
  have within := (erased.directories place).2 leads.isDirectory
  have notThere := fun isDirectory => notTarget ((erased.directories _).1 isDirectory)
  refine ⟨admitted, content, present, fun other => ?_⟩
  rw [isAfter, standing?_put (.file content) rfl within notThere other, standing?_erase present]
  rfl

theorem Leads.sameDirectories_rename_child {source target : String}
    (leads : disk.Leads directory place) (sourceNamed : isName source = true)
    (targetNamed : isName target = true)
    (renamed : disk.rename (directory.child source) (directory.child target) = .ok after) :
    SameDirectories disk after := by
  obtain ⟨sourcePlace, targetPlace, content, sourceResolved, targetResolved, present, notTarget,
    isAfter⟩ := (rename_eq_ok_iff ..).1 renamed
  obtain ⟨-, isSource⟩ := (leads.resolve_child_eq_ok_iff sourceNamed _).1 sourceResolved
  obtain ⟨-, isTarget⟩ := (leads.resolve_child_eq_ok_iff targetNamed _).1 targetResolved
  rw [isSource] at present isAfter
  rw [isTarget] at notTarget isAfter
  have erased := sameDirectories_erase sourceNamed present
  have within := (erased.directories place).2 leads.isDirectory
  have notThere := fun isDirectory => notTarget ((erased.directories _).1 isDirectory)
  rw [isAfter]
  exact erased.trans (sameDirectories_put content targetNamed within notThere)

end Names

section Endings

variable {disk after : Disk} {directory : Location} {stem ending : String}

theorem sameDirectories_of_write {content : ByteArray} (isEnding : IsEnding ending)
    (written : disk.write (directory.child (stem ++ ending)) content = .ok after) :
    SameDirectories disk after := by
  obtain ⟨place, resolved, notDirectory, isAfter⟩ := (write_eq_ok_iff ..).1 written
  obtain ⟨parent, name, shape, named, within⟩ := resolve_child_append isEnding resolved
  rw [isAfter, shape]
  rw [shape] at notDirectory
  exact sameDirectories_put content named within notDirectory

theorem sameDirectories_of_remove (isEnding : IsEnding ending)
    (removed : disk.remove (directory.child (stem ++ ending)) = .ok after) :
    SameDirectories disk after := by
  obtain ⟨place, content, resolved, present, isAfter⟩ := (remove_eq_ok_iff ..).1 removed
  obtain ⟨parent, name, shape, named, -⟩ := resolve_child_append isEnding resolved
  rw [isAfter, shape]
  rw [shape] at present
  exact sameDirectories_erase named present

theorem sameDirectories_of_rename {sourceStem sourceEnding : String}
    (isSourceEnding : IsEnding sourceEnding) (isEnding : IsEnding ending)
    (renamed : disk.rename (directory.child (sourceStem ++ sourceEnding))
      (directory.child (stem ++ ending)) = .ok after) : SameDirectories disk after := by
  obtain ⟨sourcePlace, targetPlace, content, sourceResolved, targetResolved, present,
    notDirectory, isAfter⟩ := (rename_eq_ok_iff ..).1 renamed
  obtain ⟨sourceParent, sourceName, sourceShape, sourceNamed, -⟩ :=
    resolve_child_append isSourceEnding sourceResolved
  obtain ⟨parent, name, shape, named, within⟩ := resolve_child_append isEnding targetResolved
  rw [isAfter, shape, sourceShape]
  rw [sourceShape] at present
  rw [shape] at notDirectory
  have erased := sameDirectories_erase sourceNamed present
  have stillWithin := (erased.directories parent).2 within
  have stillNot : (disk.erase (sourceParent ++ [sourceName])).standing? (parent ++ [name]) ≠
      some .directory := fun isDirectory => notDirectory ((erased.directories _).1 isDirectory)
  exact erased.trans (sameDirectories_put content named stillWithin stillNot)

end Endings

end DocStore.Disk
