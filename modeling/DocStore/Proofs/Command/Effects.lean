import DocStore.Proofs.Command.Admission

/-!
Contract: what running a command line does to the disk.

Queries change nothing. An import or a change of an index saves the store as its
very last step, so a run that fails before leaves the disk as it was: an import
that is refused at one entry leaves nothing of the entries before it. What can
fail before the save is listed in `Obstacle`, and the list is complete.

Owns: `Task.isQuery`, `Refused`, `Obstacle` and the disk after a run.
-/

namespace DocStore.Command

open DataDirectory

variable {fresh : Nat → String} {file : String} {target : Target} {disk : Disk} {store : Store}

/-- The task only asks for something. -/
def Task.isQuery : Task → Bool
  | filter _ _ | aggregate _ | count _ | collections _ => true
  | importFile _ _ | createIndex _ _ | dropIndex _ _ => false

theorem logLevel_eq_error {environment : String → Option String} {options : Options} {report : Report}
    (failed : options.logLevel environment = .error report) :
    ∃ name, options.level = some name ∧ LogLevel.ofName? name = none := by
  unfold Options.logLevel at failed
  split at failed
  next => cases failed
  next name given =>
    split at failed
    next => cases failed
    next unknown => exact ⟨name, given, unknown⟩

theorem logLevel_of_unknown {environment : String → Option String} {options : Options}
    {name : String} (given : options.level = some name)
    (unknown : LogLevel.ofName? name = none) :
    ∃ report, options.logLevel environment = .error report := by
  unfold Options.logLevel
  rw [given]
  dsimp only
  rw [unknown]
  exact ⟨_, rfl⟩

/-! ## Tasks that fail -/

section

variable [NumeralReader]

/-- The entries of an input file. -/
def HasEntries (disk : Disk) (file : String) (entries : List Json) : Prop :=
  ∃ json, readInput disk file = .ok json ∧ entriesOf file json = .ok entries

/-- Why a task fails that would change an opened store. -/
inductive Refused (fresh : Nat → String) (disk : Disk) (store : Store) : Task → Prop
  | unreadable {file : String} {target : Target} {fault : DiskFault}
      (failed : disk.readText (Location.ofText file) = .error fault) :
      Refused fresh disk store (.importFile file target)
  | malformed {file text : String} {target : Target}
      (read : disk.readText (Location.ofText file) = .ok text)
      (notJson : Json.parse? text = none) :
      Refused fresh disk store (.importFile file target)
  | noEntries {file : String} {target : Target} {json : Json}
      (read : readInput disk file = .ok json) (noArray : ∀ items, json ≠ .array items)
      (noObject : ∀ members, json ≠ .object members) :
      Refused fresh disk store (.importFile file target)
  | notAnObject {file : String} {target : Target} {entries : List Json} {position : Nat}
      {entry : Json} (hasEntries : HasEntries disk file entries)
      (atPosition : entries[position]? = some entry)
      (noObject : ∀ members, entry ≠ .object members) :
      Refused fresh disk store (.importFile file target)
  | keyNotString {file : String} {target : Target} {entries : List Json} {position : Nat}
      {entry : Json} (hasEntries : HasEntries disk file entries)
      (atPosition : entries[position]? = some entry) (unusable : HasUnusableKey entry) :
      Refused fresh disk store (.importFile file target)
  | keyStored {file key : String} {target : Target} {entries : List Json} {position : Nat}
      {entry : Json} {document : Document} (hasEntries : HasEntries disk file entries)
      (atPosition : entries[position]? = some entry) (hasKey : HasKey (fresh position) entry key)
      (stored : store.get? target.database target.collection key = .ok (some document)) :
      Refused fresh disk store (.importFile file target)
  | keyRepeated {file key : String} {target : Target} {entries : List Json} {first second : Nat}
      {entry other : Json} (hasEntries : HasEntries disk file entries) (before : first < second)
      (atFirst : entries[first]? = some entry) (atSecond : entries[second]? = some other)
      (firstHas : HasKey (fresh first) entry key) (secondHas : HasKey (fresh second) other key) :
      Refused fresh disk store (.importFile file target)
  | noField {target : Target} : Refused fresh disk store (.createIndex "" target)
  | createIndex {field : String} {target : Target} {fault : Error}
      (missing : store.collection target.database target.collection = .error fault) :
      Refused fresh disk store (.createIndex field target)
  | dropIndex {field : String} {target : Target} {fault : Error}
      (missing : store.collection target.database target.collection = .error fault) :
      Refused fresh disk store (.dropIndex field target)

theorem HasEntries.unique {entries other : List Json} (hasEntries : HasEntries disk file entries)
    (hasOther : HasEntries disk file other) : entries = other := by
  rcases hasEntries with ⟨json, read, areEntries⟩
  rcases hasOther with ⟨again, readAgain, areOther⟩
  rw [read, Except.ok.injEq] at readAgain
  rw [readAgain, areOther, Except.ok.injEq] at areEntries
  exact areEntries.symm

theorem exists_hasEntries_or_refused (fresh : Nat → String) (disk : Disk) (store : Store)
    (file : String) (target : Target) :
    (∃ entries, HasEntries disk file entries) ∨
      Refused fresh disk store (.importFile file target) := by
  cases read : disk.readText (Location.ofText file) with
  | error fault => exact .inr (.unreadable read)
  | ok text =>
      cases parsed : Json.parse? text with
      | none => exact .inr (.malformed read parsed)
      | some json =>
          have isInput := (readInput_eq_ok_iff ..).2 ⟨text, read, parsed⟩
          cases json with
          | array items => exact .inl ⟨items, _, isInput, rfl⟩
          | object members => exact .inl ⟨_, _, isInput, rfl⟩
          | _ => exact .inr (.noEntries isInput (fun _ same => nomatch same) fun _ same =>
              nomatch same)

/-- Entries that can be read are refused exactly when not all of them can be inserted. -/
theorem admits_iff_not_refused {entries : List Json} (hasEntries : HasEntries disk file entries) :
    Admits fresh target store entries ↔ ¬Refused fresh disk store (.importFile file target) := by
  constructor
  · intro admits refused
    rcases hasEntries with ⟨json, isInput, areEntries⟩
    rcases (readInput_eq_ok_iff ..).1 isInput with ⟨text, read, parsed⟩
    have same : ∀ {other}, HasEntries disk file other → entries = other :=
      HasEntries.unique ⟨json, isInput, areEntries⟩
    cases refused with
    | unreadable failed =>
        rw [failed] at read
        cases read
    | malformed readText notJson =>
        rw [readText, Except.ok.injEq] at read
        rw [read, parsed] at notJson
        cases notJson
    | noEntries readJson noArray noObject =>
        rw [readJson, Except.ok.injEq] at isInput
        rw [← isInput] at areEntries
        unfold entriesOf at areEntries
        split at areEntries
        next items => exact noArray items rfl
        next members => exact noObject members rfl
        next => cases areEntries
    | notAnObject others atPosition noObject =>
        rw [← same others] at atPosition
        rcases (exists_hasKey_iff ..).1 (admits.keyed _ _ atPosition) with ⟨⟨members, isObject⟩, -⟩
        exact noObject members isObject
    | keyNotString others atPosition unusable =>
        rw [← same others] at atPosition
        exact ((exists_hasKey_iff ..).1 (admits.keyed _ _ atPosition)).2 unusable
    | keyStored others atPosition hasKey stored =>
        rw [← same others] at atPosition
        exact admits.unstored _ _ _ _ atPosition hasKey stored
    | keyRepeated others before atFirst atSecond firstHas secondHas =>
        rw [← same others] at atFirst atSecond
        exact admits.distinct _ _ _ _ _ before atFirst atSecond firstHas secondHas
  · intro unrefused
    constructor
    · intro position entry atPosition
      rw [exists_hasKey_iff]
      constructor
      · by_contra noObject
        exact unrefused (.notAnObject hasEntries atPosition (not_exists.1 noObject))
      · exact fun unusable => unrefused (.keyNotString hasEntries atPosition unusable)
    · exact fun position entry key document atPosition hasKey stored =>
        unrefused (.keyStored hasEntries atPosition hasKey stored)
    · exact fun first second entry other key before atFirst atSecond firstHas secondHas =>
        unrefused (.keyRepeated hasEntries before atFirst atSecond firstHas secondHas)

section Replies

variable {settings : Settings}

theorem exists_replyToImport_iff :
    (∃ reply, replyToImport fresh disk store file target = .ok reply) ↔
      ¬Refused fresh disk store (.importFile file target) := by
  have imports : (∃ reply, replyToImport fresh disk store file target = .ok reply) ↔
      ∃ entries, HasEntries disk file entries ∧ Admits fresh target store entries := by
    have admits : ∀ entries, Admits fresh target store entries ↔
        ∃ final, importEntries fresh file target 0 store entries = .ok final := by
      intro entries
      rw [exists_importEntries_iff]
      simp only [Nat.zero_add]
    simp only [admits, replyToImport, bind_eq_ok_iff]
    constructor
    · rintro ⟨reply, json, isInput, entries, areEntries, next, imported, -⟩
      exact ⟨entries, ⟨json, isInput, areEntries⟩, next, imported⟩
    · rintro ⟨entries, ⟨json, isInput, areEntries⟩, next, imported⟩
      exact ⟨_, json, isInput, entries, areEntries, next, imported, rfl⟩
  rw [imports]
  constructor
  · rintro ⟨entries, hasEntries, admits⟩
    exact (admits_iff_not_refused hasEntries).1 admits
  · intro unrefused
    rcases exists_hasEntries_or_refused fresh disk store file target with
      ⟨entries, hasEntries⟩ | refused
    · exact ⟨entries, hasEntries, (admits_iff_not_refused hasEntries).2 unrefused⟩
    · exact absurd refused unrefused

/-- A task that would change the store is answered unless it is refused. -/
theorem exists_reply_iff {task : Task} (changes : task.isQuery = false) :
    (∃ reply, task.reply settings fresh disk store = .ok reply) ↔
      ¬Refused fresh disk store task := by
  cases task with
  | importFile file target => exact exists_replyToImport_iff
  | createIndex field target =>
      simp only [Task.reply, replyToCreateIndex, bind_eq_ok_iff, within_eq_ok_iff,
        Store.createIndex]
      constructor
      · rintro ⟨reply, next, created, -⟩ refused
        cases refused with
        | noField =>
            rw [if_pos rfl] at created
            cases created
        | createIndex missing =>
            rw [missing] at created
            split at created
            · cases created
            · cases created
      · intro unrefused
        have named : field ≠ "" := fun isEmpty => unrefused (isEmpty ▸ .noField)
        cases found : store.collection target.database target.collection with
        | error fault => exact absurd (.createIndex found) unrefused
        | ok content => exact ⟨_, _, if_neg named, rfl⟩
  | dropIndex field target =>
      simp only [Task.reply, replyToDropIndex, bind_eq_ok_iff, within_eq_ok_iff, Store.dropIndex]
      constructor
      · rintro ⟨reply, dropped, ⟨content, found, -⟩, -⟩ refused
        cases refused with
        | dropIndex missing =>
            rw [missing] at found
            cases found
      · intro unrefused
        cases found : store.collection target.database target.collection with
        | error fault => exact absurd (.dropIndex found) unrefused
        | ok content => exact ⟨_, _, ⟨content, rfl, rfl⟩, rfl⟩
  | _ => cases changes

/-- The answers to queries, and only these, have nothing to save. -/
theorem saved_eq_none_iff {task : Task} {reply : Reply}
    (replied : task.reply settings fresh disk store = .ok reply) :
    reply.saved = none ↔ task.isQuery = true := by
  cases task with
  | importFile file target =>
      simp only [Task.reply, replyToImport, bind_eq_ok_iff] at replied
      rcases replied with ⟨json, -, entries, -, next, -, isReply⟩
      rw [← Except.ok.inj isReply]
      exact iff_of_false (Option.some_ne_none next) Bool.false_ne_true
  | createIndex field target =>
      simp only [Task.reply, replyToCreateIndex, bind_eq_ok_iff] at replied
      rcases replied with ⟨next, -, isReply⟩
      rw [← Except.ok.inj isReply]
      exact iff_of_false (Option.some_ne_none next) Bool.false_ne_true
  | dropIndex field target =>
      simp only [Task.reply, replyToDropIndex, bind_eq_ok_iff] at replied
      rcases replied with ⟨dropped, -, isReply⟩
      rw [← Except.ok.inj isReply]
      exact iff_of_false (Option.some_ne_none dropped.2) Bool.false_ne_true
  | filter file target =>
      simp only [Task.reply, replyToFilter, bind_eq_ok_iff] at replied
      rcases replied with ⟨predicate, -, documents, -, isReply⟩
      rw [← Except.ok.inj isReply]
      exact iff_of_true rfl rfl
  | aggregate file =>
      simp only [Task.reply, replyToAggregate, bind_eq_ok_iff] at replied
      rcases replied with ⟨request, -, documents, -, isReply⟩
      rw [← Except.ok.inj isReply]
      exact iff_of_true rfl rfl
  | count target =>
      simp only [Task.reply, replyToCount, bind_eq_ok_iff] at replied
      rcases replied with ⟨count, -, isReply⟩
      rw [← Except.ok.inj isReply]
      exact iff_of_true rfl rfl
  | collections database =>
      cases database with
      | none =>
          simp only [Task.reply, replyToCollections] at replied
          rw [← Except.ok.inj replied]
          exact iff_of_true rfl rfl
      | some name =>
          simp only [Task.reply, replyToCollections, bind_eq_ok_iff] at replied
          rcases replied with ⟨collections, -, isReply⟩
          rw [← Except.ok.inj isReply]
          exact iff_of_true rfl rfl

end Replies

/-! ## Runs -/

section Run

variable {environment : String → Option String} {options : Options} {task : Task}

/-- The courses that a run can take. -/
inductive Course (environment : String → Option String) (fresh : Nat → String) (disk : Disk)
    (options : Options) (task : Task) (outcome : Outcome) : Prop
  | unset {report : Report} (level : options.logLevel environment = .error report)
      (failed : outcome.code = 1) (untouched : outcome.session = Session.start disk)
  | unopened {fault : Error}
      (closed : load disk (Location.ofText options.directory) = .error fault)
      (failed : outcome.code = 1) (untouched : outcome.session = Session.start disk)
  | refused {store : Store} {report : Report}
      (opened : load disk (Location.ofText options.directory) = .ok store)
      (unreplied : task.reply (options.settings environment) fresh disk store = .error report)
      (failed : outcome.code = 1) (untouched : outcome.session = Session.start disk)
  | answered {store : Store} {reply : Reply} {level : LogLevel}
      (isLevel : options.logLevel environment = .ok level)
      (opened : load disk (Location.ofText options.directory) = .ok store)
      (replied : task.reply (options.settings environment) fresh disk store = .ok reply)
      (unsaved : reply.saved = none) (untouched : outcome.session = Session.start disk)
  | saved {store next : Store} {reply : Reply} {level : LogLevel}
      (isLevel : options.logLevel environment = .ok level)
      (opened : load disk (Location.ofText options.directory) = .ok store)
      (replied : task.reply (options.settings environment) fresh disk store = .ok reply)
      (isSaved : reply.saved = some next)
      (session : outcome.session =
        ((save next (Location.ofText options.directory)).runOn disk).2)

theorem course_of_perform (environment : String → Option String) (fresh : Nat → String)
    (disk : Disk) (options : Options) (task : Task) :
    Course environment fresh disk options task
      ((Invocation.run options task).perform environment fresh disk) := by
  show Course environment fresh disk options task (runOptions environment fresh disk options task)
  unfold runOptions
  split
  next report isLevel => exact .unset isLevel rfl rfl
  next level isLevel =>
    dsimp only
    split
    next report isOpened =>
      cases closed : load disk (Location.ofText options.directory) with
      | error fault => exact .unopened closed rfl rfl
      | ok store =>
          rw [(openStore_eq_ok_iff ..).2 closed] at isOpened
          cases isOpened
    next store isOpened =>
      have opened := (openStore_eq_ok_iff ..).1 isOpened
      unfold runTask
      dsimp only
      split
      next reply replied =>
        unfold finish
        split
        next unsaved => exact .answered isLevel opened replied unsaved rfl
        next next isSaved =>
          refine .saved isLevel opened replied isSaved ?_
          unfold saveStore
          dsimp only
          split <;> rfl
      next report unreplied => exact .refused opened unreplied rfl rfl

/-- What makes a run fail before it saves anything. -/
inductive Obstacle (fresh : Nat → String) (disk : Disk) (options : Options) (task : Task) : Prop
  | level {name : String} (given : options.level = some name)
      (unknown : LogLevel.ofName? name = none)
  | unopened {fault : Error}
      (closed : load disk (Location.ofText options.directory) = .error fault)
  | refused {store : Store} (opened : load disk (Location.ofText options.directory) = .ok store)
      (refused : Refused fresh disk store task)

theorem Refused.isQuery_eq_false (refused : Refused fresh disk store task) :
    task.isQuery = false := by
  cases refused <;> rfl

/-- A run that only asks for something leaves the disk alone. -/
theorem session_of_query (isQuery : task.isQuery = true) :
    ((Invocation.run options task).perform environment fresh disk).session =
      Session.start disk := by
  cases course_of_perform environment fresh disk options task with
  | unset _ _ untouched => exact untouched
  | unopened _ _ untouched => exact untouched
  | refused _ _ _ untouched => exact untouched
  | answered _ _ _ _ untouched => exact untouched
  | saved _ _ replied isSaved _ =>
      rw [(saved_eq_none_iff replied).2 isQuery] at isSaved
      cases isSaved

/-- A run that meets an obstacle fails and leaves the disk alone. -/
theorem perform_of_obstacle (obstacle : Obstacle fresh disk options task) :
    ((Invocation.run options task).perform environment fresh disk).code = 1 ∧
      ((Invocation.run options task).perform environment fresh disk).session =
        Session.start disk := by
  -- A run that has been answered has met no obstacle.
  have unmet : ∀ {level : LogLevel} {found : Store} {reply : Reply},
      options.logLevel environment = .ok level →
      load disk (Location.ofText options.directory) = .ok found →
      task.reply (options.settings environment) fresh disk found ≠ .ok reply := by
    intro level found reply isLevel isOpened replied
    cases obstacle with
    | level given unknown =>
        rcases logLevel_of_unknown given unknown with ⟨report, failed⟩
        rw [failed] at isLevel
        cases isLevel
    | unopened closed =>
        rw [closed] at isOpened
        cases isOpened
    | refused opened refused =>
        rw [opened, Except.ok.injEq] at isOpened
        rw [isOpened] at refused
        exact (exists_reply_iff refused.isQuery_eq_false).1 ⟨reply, replied⟩ refused
  cases course_of_perform environment fresh disk options task with
  | unset _ failed untouched => exact ⟨failed, untouched⟩
  | unopened _ failed untouched => exact ⟨failed, untouched⟩
  | refused _ _ failed untouched => exact ⟨failed, untouched⟩
  | answered isLevel opened replied _ _ => exact absurd replied (unmet isLevel opened)
  | saved isLevel opened replied _ _ => exact absurd replied (unmet isLevel opened)

/-- A run that changes the store and meets no obstacle gets as far as saving it. -/
theorem session_of_change (changes : task.isQuery = false)
    (free : ¬Obstacle fresh disk options task) :
    ∃ store reply next, load disk (Location.ofText options.directory) = .ok store ∧
      task.reply (options.settings environment) fresh disk store = .ok reply ∧
      reply.saved = some next ∧
      ((Invocation.run options task).perform environment fresh disk).session =
        ((save next (Location.ofText options.directory)).runOn disk).2 := by
  cases course_of_perform environment fresh disk options task with
  | unset isLevel _ _ =>
      rcases logLevel_eq_error isLevel with ⟨name, given, unknown⟩
      exact absurd (.level given unknown) free
  | unopened closed _ _ => exact absurd (.unopened closed) free
  | refused opened unreplied _ _ =>
      rcases (exists_reply_iff changes).2 fun refused => free (.refused opened refused) with
        ⟨reply, replied⟩
      rw [unreplied] at replied
      cases replied
  | answered _ _ replied unsaved _ =>
      rw [(saved_eq_none_iff replied).1 unsaved] at changes
      cases changes
  | saved _ opened replied isSaved session =>
      exact ⟨_, _, _, opened, replied, isSaved, session⟩

/-- Only a run that changes the store and meets no obstacle works on the disk, by saving the changed
store; every other run leaves the disk as it was, and one that meets an obstacle fails. -/
theorem session_of_perform (environment : String → Option String) (fresh : Nat → String)
    (disk : Disk) (invocation : Invocation) :
    ((∀ options task, invocation = .run options task →
        task.isQuery = true ∨ Obstacle fresh disk options task) →
      (invocation.perform environment fresh disk).session.disk = disk ∧
        (invocation.perform environment fresh disk).session.performed = []) ∧
    ∀ options task, invocation = .run options task →
      (Obstacle fresh disk options task →
        (invocation.perform environment fresh disk).code = 1) ∧
      (task.isQuery = false → ¬Obstacle fresh disk options task →
        ∃ store reply next, load disk (Location.ofText options.directory) = .ok store ∧
          task.reply (options.settings environment) fresh disk store = .ok reply ∧
          reply.saved = some next ∧
          (invocation.perform environment fresh disk).session =
            ((save next (Location.ofText options.directory)).runOn disk).2) := by
  constructor
  · intro harmless
    have untouched : (invocation.perform environment fresh disk).session = Session.start disk := by
      cases invocation with
      | run options task =>
          rcases harmless options task rfl with isQuery | obstacle
          · exact session_of_query isQuery
          · exact (perform_of_obstacle obstacle).2
      | help topic => rfl
      | version => rfl
      | rejected => rfl
    rw [untouched]
    exact ⟨rfl, rfl⟩
  · intro options task isRun
    rw [isRun]
    exact ⟨fun obstacle => (perform_of_obstacle obstacle).1, session_of_change⟩

end Run

end

attribute [local instance] NumeralReader.nearest

private def twiceEntries : List Json :=
  [.object [("_id", .string "2")], .object [], .object [("_id", .string "2")]]

/-- A data directory with one document, and a list in which a key comes twice. -/
private def twiceInbox : Disk :=
  ⟨[("data", .directory
      [("db", .directory [("c.json", .file "[\x7b\"_id\":\"1\"\x7d]".toUTF8)])]),
    ("in.json", .file (Json.array twiceEntries).pretty.toUTF8)]⟩

private def twiceStore : Store :=
  (load twiceInbox (Location.ofText "data")).toOption.getD Store.empty

private theorem twice_opened : load twiceInbox (Location.ofText "data") = .ok twiceStore := by
  have isSome : (load twiceInbox (Location.ofText "data")).toOption.isSome = true := by
    decide +kernel
  rcases Option.isSome_iff_exists.1 isSome with ⟨store, isStore⟩
  unfold twiceStore
  rw [isStore]
  exact eq_ok_of_toOption isStore

private theorem twice_hasEntries : HasEntries twiceInbox "in.json" twiceEntries := by
  have resolved : twiceInbox.resolve (Location.ofText "in.json") = .ok ["in.json"] :=
    eq_ok_of_toOption (by decide +kernel)
  have present : twiceInbox.standing? ["in.json"] =
      some (.file (Json.array twiceEntries).pretty.toUTF8) := by
    rw [Disk.standing?_eq_file_iff]
    rfl
  have parsed : Json.parse? (Json.array twiceEntries).pretty = some (.array twiceEntries) :=
    Json.parse?_pretty (by decide) (by decide)
  exact ⟨_, (readInput_eq_ok_iff ..).2 ⟨_, Disk.readText_of_file resolved present, parsed⟩, rfl⟩

/-- The third entry has the key of the first, so the second is not stored either. An index can be
dropped at the same time. -/
theorem session_of_perform_repeated :
    (((Invocation.run ⟨"data", none, false⟩ (.importFile "in.json" ⟨"db", "c"⟩)).perform
        (fun _ => none) (fun _ => "fresh") twiceInbox).code = 1 ∧
      ((Invocation.run ⟨"data", none, false⟩ (.importFile "in.json" ⟨"db", "c"⟩)).perform
        (fun _ => none) (fun _ => "fresh") twiceInbox).session.disk = twiceInbox) ∧
    ∃ next, ((Invocation.run ⟨"data", none, false⟩ (.dropIndex "n" ⟨"db", "c"⟩)).perform
        (fun _ => none) (fun _ => "fresh") twiceInbox).session =
      ((save next (Location.ofText "data")).runOn twiceInbox).2 := by
  have hasKey : HasKey "fresh" (.object [("_id", .string "2")]) "2" :=
    ⟨⟨[("_id", .string "2")]⟩, rfl, rfl⟩
  have repeated : Refused (fun _ => "fresh") twiceInbox twiceStore
      (.importFile "in.json" ⟨"db", "c"⟩) :=
    .keyRepeated twice_hasEntries (Nat.succ_pos 1) rfl rfl hasKey hasKey
  have obstacle : Obstacle (fun _ => "fresh") twiceInbox ⟨"data", none, false⟩
      (.importFile "in.json" ⟨"db", "c"⟩) := .refused twice_opened repeated
  have free : ¬Obstacle (fun _ => "fresh") twiceInbox ⟨"data", none, false⟩
      (.dropIndex "n" ⟨"db", "c"⟩) := by
    intro other
    cases other with
    | level given _ => cases given
    | unopened closed =>
        rw [twice_opened] at closed
        cases closed
    | refused isOpened refused =>
        rw [twice_opened, Except.ok.injEq] at isOpened
        rw [← isOpened] at refused
        cases refused with
        | dropIndex missing =>
            have isThere : (twiceStore.collection "db" "c").toOption.isSome = true := by
              decide +kernel
            rw [missing] at isThere
            cases isThere
  have imported := session_of_perform (fun _ => none) (fun _ => "fresh") twiceInbox
    (.run ⟨"data", none, false⟩ (.importFile "in.json" ⟨"db", "c"⟩))
  have dropped := session_of_perform (fun _ => none) (fun _ => "fresh") twiceInbox
    (.run ⟨"data", none, false⟩ (.dropIndex "n" ⟨"db", "c"⟩))
  constructor
  · refine ⟨(imported.2 _ _ rfl).1 obstacle, (imported.1 ?_).1⟩
    intro options task isRun
    cases isRun
    exact .inr obstacle
  · rcases (dropped.2 _ _ rfl).2 rfl free with ⟨store, reply, next, -, -, -, session⟩
    exact ⟨next, session⟩

end DocStore.Command
