import DocStore.Command.Run
import DocStore.Proofs.DataDirectory.Opening
import DocStore.Proofs.Store.Insertion

/-!
Contract: what an import leaves in the data directory.

An import that succeeds has added every entry of its input file to the store
that was opened and has saved the result. The directory is opened again with the
documents that were there and those of the file, unless the file is one object
that is too deep for the list that a file of documents is.

A reader takes a bounded number of levels. The items of a list stand one level
below it, so an imported list is written again with items of the same depth; an
object that stands alone may use that level for itself.

Owns: `Command.IsEntry`, the laws of `importEntries`, and runs of an import.
-/

namespace DocStore.Command

open DataDirectory

variable {fresh : Nat → String} {file : String} {target : Target}

/-! ## Entries -/

theorem within_eq_ok_iff {Result : Type} (context : String) (outcome : Except Error Result)
    (result : Result) : Report.within context outcome = .ok result ↔ outcome = .ok result := by
  cases outcome with
  | error fault =>
      refine iff_of_false (fun same => ?_) fun same => ?_
      · cases same
      · cases same
  | ok value =>
      show Except.ok value = Except.ok result ↔ _
      rw [Except.ok.injEq, Except.ok.injEq]

/-- A document that an entry at or after a position is stored as, under its key. -/
def IsEntry (fresh : Nat → String) (position : Nat) (entries : List Json) (key : String)
    (document : Document) : Prop :=
  ∃ offset entry read, entries[offset]? = some entry ∧ Document.ofJson entry = .ok read ∧
    Collection.keyFor (fresh (position + offset)) read = .ok key ∧ document = read.withKey key

theorem isEntry_cons (position : Nat) (entry : Json) (rest : List Json) (key : String)
    (document : Document) :
    IsEntry fresh position (entry :: rest) key document ↔
      (∃ read, Document.ofJson entry = .ok read ∧
        Collection.keyFor (fresh position) read = .ok key ∧ document = read.withKey key) ∨
      IsEntry fresh (position + 1) rest key document := by
  constructor
  · rintro ⟨offset, found, read, isFound, isRead, isKey, isStored⟩
    cases offset with
    | zero =>
        rw [List.getElem?_cons_zero, Option.some.injEq] at isFound
        exact .inl ⟨read, isFound ▸ isRead, isKey, isStored⟩
    | succ offset =>
        rw [List.getElem?_cons_succ] at isFound
        rw [Nat.add_comm offset 1, ← Nat.add_assoc] at isKey
        exact .inr ⟨offset, found, read, isFound, isRead, isKey, isStored⟩
  · rintro (⟨read, isRead, isKey, isStored⟩ |
      ⟨offset, found, read, isFound, isRead, isKey, isStored⟩)
    · exact ⟨0, entry, read, rfl, isRead, isKey, isStored⟩
    · rw [Nat.add_assoc, Nat.add_comm 1] at isKey
      exact ⟨offset + 1, found, read, isFound, isRead, isKey, isStored⟩

theorem importEntries_cons_eq_ok {position : Nat} {store final : Store} {entry : Json}
    {rest : List Json}
    (imported : importEntries fresh file target position store (entry :: rest) = .ok final) :
    ∃ document key next, Document.ofJson entry = .ok document ∧
      store.insert target.database target.collection (fresh position) document =
        (.ok key, next) ∧
      importEntries fresh file target (position + 1) next rest = .ok final := by
  rw [importEntries, bind_eq_ok_iff] at imported
  rcases imported with ⟨document, isDocument, imported⟩
  rw [within_eq_ok_iff] at isDocument
  rw [bind_eq_ok_iff] at imported
  rcases imported with ⟨key, isKey, restImported⟩
  rw [within_eq_ok_iff] at isKey
  exact ⟨document, key, _, isDocument, Prod.ext isKey rfl, restImported⟩

/-- What an insertion of any entry keeps, importing all of them keeps. -/
theorem importEntries_keeps {good : Store → Prop} (entries : List Json)
    (step : ∀ entry ∈ entries, ∀ {document : Document} {store next : Store} {key other : String},
      Document.ofJson entry = .ok document →
        store.insert target.database target.collection other document = (.ok key, next) →
          good store → good next) :
    ∀ {position : Nat} {store final : Store}, good store →
      importEntries fresh file target position store entries = .ok final → good final := by
  induction entries with
  | nil =>
      intro position store final holds imported
      rw [importEntries, Except.ok.injEq] at imported
      rw [← imported]
      exact holds
  | cons entry rest inductionHypothesis =>
      intro position store final holds imported
      rcases importEntries_cons_eq_ok imported with
        ⟨document, key, next, isDocument, inserted, restImported⟩
      apply inductionHypothesis (fun other member => step other (List.mem_cons_of_mem _ member))
        _ restImported
      exact step entry (List.mem_cons_self ..) isDocument inserted holds

/-- The documents after an import are those before it and those of the entries. -/
theorem get?_importEntries (entries : List Json) :
    ∀ {position : Nat} {store final : Store},
      importEntries fresh file target position store entries = .ok final →
      ∀ database collection key document,
        final.get? database collection key = .ok (some document) ↔
          store.get? database collection key = .ok (some document) ∨
            (database = target.database ∧ collection = target.collection) ∧
              IsEntry fresh position entries key document := by
  induction entries with
  | nil =>
      intro position store final imported database collection key document
      rw [importEntries, Except.ok.injEq] at imported
      rw [imported]
      refine (or_iff_left ?_).symm
      rintro ⟨-, offset, entry, read, found, -⟩
      cases found
  | cons entry rest inductionHypothesis =>
      intro position store final imported database collection key document
      rcases importEntries_cons_eq_ok imported with
        ⟨read, readKey, next, isRead, inserted, restImported⟩
      have isKey := Store.keyFor_of_insert inserted
      have first : (key = readKey ∧ document = read.withKey readKey) ↔
          ∃ found, Document.ofJson entry = .ok found ∧
            Collection.keyFor (fresh position) found = .ok key ∧
              document = found.withKey key := by
        constructor
        · rintro ⟨sameKey, isStored⟩
          rw [sameKey]
          exact ⟨read, isRead, isKey, isStored⟩
        · rintro ⟨found, isFound, foundKey, isStored⟩
          rw [isRead, Except.ok.injEq] at isFound
          rw [← isFound] at foundKey isStored
          rw [isKey, Except.ok.injEq] at foundKey
          rw [foundKey]
          exact ⟨rfl, isStored⟩
      rw [inductionHypothesis restImported, Store.get?_insert inserted, isEntry_cons, first,
        or_assoc, and_or_left]

/-- Every entry of a list that is imported is stored. -/
theorem exists_isEntry (entries : List Json) :
    ∀ {position : Nat} {store final : Store},
      importEntries fresh file target position store entries = .ok final →
      ∀ entry ∈ entries, ∃ read key, Document.ofJson entry = .ok read ∧
        (∃ given, Collection.keyFor given read = .ok key) ∧
          IsEntry fresh position entries key (read.withKey key) := by
  induction entries with
  | nil => exact fun _ entry member => absurd member List.not_mem_nil
  | cons first rest inductionHypothesis =>
      intro position store final imported entry member
      rcases importEntries_cons_eq_ok imported with
        ⟨read, key, next, isRead, inserted, restImported⟩
      rcases List.mem_cons.1 member with isFirst | inRest
      · have isKey := Store.keyFor_of_insert inserted
        rw [isFirst]
        exact ⟨read, key, isRead, ⟨_, isKey⟩,
          (isEntry_cons ..).2 (.inl ⟨read, isRead, isKey, rfl⟩)⟩
      · rcases inductionHypothesis restImported entry inRest with
          ⟨other, otherKey, isOther, isKey, isEntry⟩
        exact ⟨other, otherKey, isOther, isKey, (isEntry_cons ..).2 (.inr isEntry)⟩

/-! ## Imports that can be saved -/

/-- An insertion under plain names keeps the names of a store plain. -/
theorem names_insert {store next : Store} {database collection other key : String}
    {document : Document} (databaseNamed : Disk.isName database = true)
    (collectionPlain : isPlain collection = true)
    (inserted : store.insert database collection other document = (.ok key, next))
    (named : HasNames store) (plain : HasPlainNames store) :
    HasNames next ∧ HasPlainNames next := by
  constructor
  · rw [hasNames_iff] at named ⊢
    intro name isKnown
    rcases Store.insert_eq_ok inserted with ⟨content, -, isNext⟩
    rw [isNext, knows_putCollection_iff, Store.createCollection, knows_putCollection_iff] at isKnown
    rcases isKnown with isTarget | isTarget | inStore
    · rw [isTarget]
      exact databaseNamed
    · rw [isTarget]
      exact databaseNamed
    · exact named name inStore
  · rcases Store.collection_insert inserted with ⟨grown, -, collections⟩
    rw [hasPlainNames_iff]
    intro otherDatabase otherCollection content found
    rw [collections] at found
    split at found
    next here =>
      rw [here.2]
      exact collectionPlain
    next => exact plain.isPlain_of_collection found

/-- Entries in field order are imported into a store that is reachable again, under plain names. -/
theorem names_importEntries {position : Nat} {entries : List Json} {store final : Store}
    (databaseNamed : Disk.isName target.database = true)
    (collectionPlain : isPlain target.collection = true)
    (ordered : ∀ entry ∈ entries, entry.isOrdered = true) (reachable : store.Reachable)
    (named : HasNames store) (plain : HasPlainNames store)
    (imported : importEntries fresh file target position store entries = .ok final) :
    final.Reachable ∧ (HasNames final ∧ HasPlainNames final) ∧
      ∀ name, Knows store name → Knows final name := by
  let good (other : Store) : Prop :=
    other.Reachable ∧ (HasNames other ∧ HasPlainNames other) ∧
      ∀ name, Knows store name → Knows other name
  have result : good final := by
    apply importEntries_keeps entries _ ⟨reachable, ⟨named, plain⟩, fun _ isKnown => isKnown⟩
      imported
    intro entry member document before next key other isDocument inserted holds
    rcases holds with ⟨reachableBefore, ⟨namedBefore, plainBefore⟩, moreBefore⟩
    have ordered := Document.isOrdered_of_ofJson (ordered entry member) isDocument
    have isNext : before.after (.insert target.database target.collection other
        ⟨document, ordered⟩) = next :=
      congrArg Prod.snd inserted
    refine ⟨?_, names_insert databaseNamed collectionPlain inserted namedBefore plainBefore, ?_⟩
    · rw [← isNext]
      exact reachableBefore.operated _
    · intro name isKnown
      rw [← isNext]
      exact knows_after _ (moreBefore name isKnown)
  exact result

theorem every_shallow_iff (store : Store) :
    store.Every Shallow ↔ ∀ database collection key document,
      store.get? database collection key = .ok (some document) →
        document.toJson.depth ≤ depthLimit := by
  constructor
  · intro shallow database collection key document found
    rcases (Store.get?_eq_ok_some_iff ..).1 found with ⟨content, inStore, atKey⟩
    exact shallow _ _ _ inStore key document atKey
  · intro bounded database collection content inStore key document atKey
    exact bounded _ _ key document ((Store.get?_eq_ok_some_iff ..).2 ⟨content, inStore, atKey⟩)

/-- A store stays shallow in an import exactly when every entry is nested within the limit. -/
theorem shallow_importEntries_iff {position : Nat} {entries : List Json} {store final : Store}
    (ordered : ∀ entry ∈ entries, entry.isOrdered = true) (shallow : store.Every Shallow)
    (imported : importEntries fresh file target position store entries = .ok final) :
    final.Every Shallow ↔ ∀ entry ∈ entries, entry.depth ≤ depthLimit := by
  have depthOf : ∀ {entry : Json} {read : Document} {given key : String}, entry ∈ entries →
      Document.ofJson entry = .ok read → Collection.keyFor given read = .ok key →
        (read.withKey key).toJson.depth = entry.depth := by
    intro entry read given key member isRead isKey
    have isOrdered := Document.isOrdered_of_ofJson (ordered entry member) isRead
    exact (depth_stored ⟨read, isOrdered⟩ isKey).trans (Document.depth_of_ofJson isRead)
  rw [every_shallow_iff] at shallow ⊢
  simp only [get?_importEntries entries imported]
  constructor
  · intro bounded entry member
    rcases exists_isEntry entries imported entry member with
      ⟨read, key, isRead, ⟨given, isKey⟩, isEntry⟩
    rw [← depthOf member isRead isKey]
    exact bounded _ _ key _ (.inr ⟨⟨rfl, rfl⟩, isEntry⟩)
  · intro bounded database collection key document found
    rcases found with inStore | ⟨-, offset, entry, read, isFound, isRead, isKey, isStored⟩
    · exact shallow _ _ _ _ inStore
    · have member := List.mem_of_getElem? isFound
      rw [isStored, depthOf member isRead isKey]
      exact bounded entry member

theorem saved_of_finish {disk : Disk} {options : Options} {level : LogLevel}
    {notices : List String} {reply : Reply} {next : Store} (isSaved : reply.saved = some next)
    (succeeded : (finish options level disk notices reply).code = 0) :
    (save next (Location.ofText options.directory)).runOn disk =
      (.ok (), (finish options level disk notices reply).session) := by
  simp only [finish, isSaved, saveStore] at succeeded ⊢
  cases run : (save next (Location.ofText options.directory)).runOn disk with
  | mk outcome session =>
      simp only [run] at succeeded ⊢
      cases outcome with
      | error fault => cases succeeded
      | ok _ => rfl

section Run

variable [NumeralReader]

theorem readInput_eq_ok_iff (disk : Disk) (file : String) (json : Json) :
    readInput disk file = .ok json ↔
      ∃ text, disk.readText (Location.ofText file) = .ok text ∧ Json.parse? text = some json := by
  unfold readInput
  cases disk.readText (Location.ofText file) with
  | error fault => simp
  | ok text => cases parsed : Json.parse? text <;> simp [parsed]

/-- The entries of an input file are in field order, and within the limit unless the file is one
object, which no list surrounds. -/
theorem entries_of_readInput {disk : Disk} {json : Json} {entries : List Json}
    (read : readInput disk file = .ok json) (areEntries : entriesOf file json = .ok entries) :
    (∀ entry ∈ entries, entry.isOrdered = true) ∧
      ((∀ entry ∈ entries, entry.depth ≤ depthLimit) ↔
        ∀ members, json = .object members → json.depth ≤ depthLimit) := by
  rcases (readInput_eq_ok_iff ..).1 read with ⟨text, -, parsed⟩
  have ordered := Json.isOrdered_of_parse? parsed
  have bounded := Json.depth_le_of_parse? parsed
  unfold entriesOf at areEntries
  split at areEntries
  next items =>
    rw [Json.isOrdered, Json.itemsOrdered_iff] at ordered
    rw [Json.depth] at bounded
    rw [← Except.ok.inj areEntries]
    refine ⟨ordered, iff_of_true ?_ fun members isObject => ?_⟩
    · exact (Json.itemsDepth_le_iff ..).1 (Nat.le_of_succ_le_succ bounded)
    · cases isObject
  next members =>
    rw [← Except.ok.inj areEntries]
    simp only [List.mem_singleton, forall_eq]
    exact ⟨ordered, fun within _ _ => within, fun within => within members rfl⟩
  next => cases areEntries

/-! ## Runs -/

variable {environment : String → Option String} {disk : Disk} {options : Options}

theorem openStore_eq_ok_iff (options : Options) (disk : Disk) (store : Store) :
    openStore options disk = .ok store ↔
      load disk (Location.ofText options.directory) = .ok store :=
  within_eq_ok_iff ..

/-- An import that succeeds has saved what it has made of the store that was opened. -/
theorem saved_of_import {store : Store}
    (succeeded : ((Invocation.run options (.importFile file target)).perform environment fresh
      disk).code = 0)
    (opened : load disk (Location.ofText options.directory) = .ok store) :
    ∃ json entries next, readInput disk file = .ok json ∧ entriesOf file json = .ok entries ∧
      importEntries fresh file target 0 store entries = .ok next ∧
      (save next (Location.ofText options.directory)).runOn disk =
        (.ok (), ((Invocation.run options (.importFile file target)).perform environment fresh
          disk).session) := by
  have isOpened := (openStore_eq_ok_iff ..).2 opened
  unfold Invocation.perform runOptions at succeeded ⊢
  cases level : options.logLevel environment with
  | error report =>
      simp only [level] at succeeded
      cases succeeded
  | ok level' =>
      simp only [level, isOpened, runTask, Task.reply] at succeeded ⊢
      cases replied : replyToImport fresh disk store file target with
      | error report =>
          simp only [replied] at succeeded
          cases succeeded
      | ok reply =>
          simp only [replied] at succeeded ⊢
          unfold replyToImport at replied
          rw [bind_eq_ok_iff] at replied
          rcases replied with ⟨json, read, replied⟩
          rw [bind_eq_ok_iff] at replied
          rcases replied with ⟨entries, areEntries, replied⟩
          rw [bind_eq_ok_iff] at replied
          rcases replied with ⟨next, imported, isReply⟩
          have isSaved : reply.saved = some next := by
            rw [← Except.ok.inj isReply]
          exact ⟨json, entries, next, read, areEntries, imported, saved_of_finish isSaved succeeded⟩

/-- Conversely an import of readable entries succeeds if the store can be saved. -/
theorem code_of_import {level : LogLevel} {store next : Store} {json : Json} {entries : List Json}
    (isLevel : options.logLevel environment = .ok level)
    (opened : load disk (Location.ofText options.directory) = .ok store)
    (read : readInput disk file = .ok json) (areEntries : entriesOf file json = .ok entries)
    (imported : importEntries fresh file target 0 store entries = .ok next)
    {session : Session}
    (saved : (save next (Location.ofText options.directory)).runOn disk = (.ok (), session)) :
    ((Invocation.run options (.importFile file target)).perform environment fresh disk).code =
      0 := by
  have isOpened := (openStore_eq_ok_iff ..).2 opened
  unfold Invocation.perform runOptions
  simp only [isLevel, isOpened, runTask, Task.reply, replyToImport, read, areEntries, imported,
    bind, Except.bind, finish, saveStore, saved]
  rfl

/-- An import that succeeds leaves the store with all entries, normalised, or, when they come as
one object that is nested too deeply for a list around it, nothing that is opened. -/
theorem load_of_import_cases [Json.ReadsBack] {store : Store}
    (succeeded : ((Invocation.run options (.importFile file target)).perform environment fresh
      disk).code = 0)
    (opened : load disk (Location.ofText options.directory) = .ok store)
    (named : disk.root.isNamed = true) (isRoot : IsRoot disk (Location.ofText options.directory))
    (spelled : ∀ entry ∈ store.databases.toList, ∀ inner ∈ entry.2.toList,
      inner.1 ≠ "" ∧ Text.endsWith inner.1 fieldsEnding = false)
    (databaseNamed : Disk.isName target.database = true)
    (collectionPlain : isPlain target.collection = true) :
    ∃ json entries next, readInput disk file = .ok json ∧ entriesOf file json = .ok entries ∧
      importEntries fresh file target 0 store entries = .ok next ∧
      (load ((Invocation.run options (.importFile file target)).perform environment fresh
          disk).session.disk (Location.ofText options.directory) = .ok next.normalised ∧
        (∀ members, json = .object members → json.depth ≤ depthLimit) ∨
      (∃ fault, load ((Invocation.run options (.importFile file target)).perform environment fresh
          disk).session.disk (Location.ofText options.directory) = .error fault) ∧
        ¬∀ members, json = .object members → json.depth ≤ depthLimit) := by
  rcases saved_of_import succeeded opened with
    ⟨json, entries, next, read, areEntries, imported, saved⟩
  rcases entries_of_readInput read areEntries with ⟨ordered, bounded⟩
  rcases hasNames_of_opened named opened with ⟨storeNamed, shallow⟩
  have plain := hasPlainNames_of_opened named opened spelled
  rcases names_importEntries databaseNamed collectionPlain ordered (.opened opened) storeNamed plain
    imported with ⟨reachable, ⟨nextNamed, nextPlain⟩, more⟩
  refine ⟨json, entries, next, read, areEntries, imported, ?_⟩
  rw [← bounded, ← shallow_importEntries_iff ordered shallow imported]
  exact load_of_save_opened named isRoot opened more reachable nextNamed nextPlain saved

/-- After an import that succeeds the data directory is opened with the documents that were there
before and those of the input file, unless that file is one object that is nested too deeply for a
list around it. -/
theorem load_of_import_iff [Json.ReadsBack] {store : Store}
    (succeeded : ((Invocation.run options (.importFile file target)).perform environment fresh
      disk).code = 0)
    (opened : load disk (Location.ofText options.directory) = .ok store)
    (named : disk.root.isNamed = true) (isRoot : IsRoot disk (Location.ofText options.directory))
    (spelled : ∀ entry ∈ store.databases.toList, ∀ inner ∈ entry.2.toList,
      inner.1 ≠ "" ∧ Text.endsWith inner.1 fieldsEnding = false)
    (databaseNamed : Disk.isName target.database = true)
    (collectionPlain : isPlain target.collection = true) :
    ∃ json entries, readInput disk file = .ok json ∧ entriesOf file json = .ok entries ∧
      ((∃ again, load ((Invocation.run options (.importFile file target)).perform environment fresh
          disk).session.disk (Location.ofText options.directory) = .ok again ∧
        ∀ database collection key document,
          again.get? database collection key = .ok (some document) ↔
            ∃ stored, document = stored.normalised ∧
              (store.get? database collection key = .ok (some stored) ∨
                (database = target.database ∧ collection = target.collection) ∧
                  IsEntry fresh 0 entries key stored)) ↔
      ∀ members, json = .object members → json.depth ≤ depthLimit) := by
  rcases load_of_import_cases succeeded opened named isRoot spelled databaseNamed
    collectionPlain with
    ⟨json, entries, next, read, areEntries, imported, loaded⟩
  refine ⟨json, entries, read, areEntries, ?_⟩
  rcases loaded with ⟨loaded, bounded⟩ | ⟨⟨fault, failed⟩, deep⟩
  · refine iff_of_true ⟨next.normalised, loaded, fun database collection key document => ?_⟩ bounded
    rw [Store.get?_normalised_eq_ok_some_iff]
    simp only [get?_importEntries entries imported]
  · refine iff_of_false ?_ deep
    rintro ⟨again, loaded, -⟩
    rw [failed] at loaded
    cases loaded

end Run

/-! ## Two inboxes -/

section Examples

attribute [local instance] NumeralReader.nearest

/-- Imports `in.json` into the collection `c` of the database `db` below `data`. -/
private def importInto (disk : Disk) : Outcome :=
  (Invocation.run ⟨"data", none, false⟩ (.importFile "in.json" ⟨"db", "c"⟩)).perform
    (fun _ => none) (fun _ => "fresh") disk

private def isObject : Json → Bool
  | .object _ => true
  | _ => false

private def listInbox : Disk :=
  ⟨[("data", .directory
      [("db", .directory [("c.json", .file "[\x7b\"_id\":\"1\"\x7d]".toUTF8)])]),
    ("in.json", .file "[\x7b\"_id\":\"2\",\"n\":-0.0\x7d,\x7b\x7d]".toUTF8)]⟩

private def listStore : Store :=
  (load listInbox (Location.ofText "data")).toOption.getD Store.empty

/-- The documents of the collection that is imported into. -/
private def filed (store : Store) : Option (List String) := do
  let content ← (store.collection "db" "c").toOption
  return content.documents.values.map Document.compact

/-- A list with a negative zero and a document without a key is added to what was there. -/
theorem load_of_import_iff_list :
    ∃ again, load (importInto listInbox).session.disk (Location.ofText "data") = .ok again ∧
      filed again = some ["\x7b\"_id\":\"1\"\x7d", "\x7b\"_id\":\"2\",\"n\":0\x7d",
        "\x7b\"_id\":\"fresh\"\x7d"] := by
  have succeeded : (importInto listInbox).code = 0 := by decide +kernel
  have opened : load listInbox (Location.ofText "data") = .ok listStore := by
    have isSome : (load listInbox (Location.ofText "data")).toOption.isSome = true := by
      decide +kernel
    rcases Option.isSome_iff_exists.1 isSome with ⟨store, isStore⟩
    unfold listStore
    rw [isStore]
    exact eq_ok_of_toOption isStore
  have isRoot : IsRoot listInbox (Location.ofText "data") := .inl (by decide +kernel)
  have isList : (readInput listInbox "in.json").toOption.map isObject = some false := by
    decide +kernel
  have answers : (load (importInto listInbox).session.disk (Location.ofText "data")).toOption.bind
      filed = some ["\x7b\"_id\":\"1\"\x7d", "\x7b\"_id\":\"2\",\"n\":0\x7d",
        "\x7b\"_id\":\"fresh\"\x7d"] := by
    decide +kernel
  unfold importInto at succeeded answers ⊢
  rcases load_of_import_iff succeeded opened (by decide +kernel) isRoot (by decide +kernel)
    (by decide +kernel) (by decide +kernel) with ⟨json, entries, read, -, documents⟩
  have bounded : ∀ members, json = .object members → json.depth ≤ depthLimit := by
    intro members bare
    rw [read, bare] at isList
    cases isList
  rcases documents.2 bounded with ⟨again, loaded, -⟩
  rw [loaded] at answers
  exact ⟨again, loaded, answers⟩

private def deepChars : List Char :=
  "\x7b\"_id\":\"1\",\"a\":".toList ++
    (List.replicate 126 '[' ++ (List.replicate 126 ']' ++ ['\x7d']))

private def deepInbox : Disk := ⟨[("in.json", .file (String.ofList deepChars).toUTF8)]⟩

/-- Adds the entries of data to the empty store and saves it on the disk of the deep inbox. -/
private def filesDeep (json : Json) : Option Unit := do
  let entries ← (entriesOf "in.json" json).toOption
  let next ← (importEntries (fun _ => "fresh") "in.json" ⟨"db", "c"⟩ 0 Store.empty
    entries).toOption
  ((save next (Location.ofText "data")).runOn deepInbox).1.toOption

private theorem readInput_deepInbox : ∃ json, readInput deepInbox "in.json" = .ok json ∧
    isObject json = true ∧ ¬json.depth ≤ depthLimit ∧ filesDeep json = some () := by
  have evaluated : (Json.parse? (String.ofList deepChars)).map (fun json =>
      (isObject json, decide (json.depth ≤ depthLimit), filesDeep json)) =
        some (true, false, some ()) := by
    -- Evaluating text takes long, so the characters are parsed as they are.
    unfold Json.parse? Json.parseWithin?
    rw [String.toList_ofList]
    decide +kernel
  rcases Option.map_eq_some_iff.1 evaluated with ⟨json, parsed, answers⟩
  rcases Prod.mk.inj answers with ⟨bare, answers⟩
  rcases Prod.mk.inj answers with ⟨deep, files⟩
  have resolved : deepInbox.resolve (Location.ofText "in.json") = .ok ["in.json"] :=
    eq_ok_of_toOption (by decide +kernel)
  have present : deepInbox.standing? ["in.json"] =
      some (.file (String.ofList deepChars).toUTF8) := by
    rw [Disk.standing?_eq_file_iff]
    rfl
  have read := (readInput_eq_ok_iff deepInbox "in.json" json).2
    ⟨_, Disk.readText_of_file resolved present, parsed⟩
  exact ⟨json, read, bare, of_decide_eq_false deep, files⟩

/-- A document of 127 levels is imported on its own, but not read back from the list that it is
stored in. It has no number in it, so all readers of numerals are alike to it. -/
theorem import_too_deep :
    load deepInbox (Location.ofText "data") = .ok Store.empty ∧
      (importInto deepInbox).code = 0 ∧
      ∃ fault, load (importInto deepInbox).session.disk (Location.ofText "data") =
        .error fault := by
  have opened : load deepInbox (Location.ofText "data") = .ok Store.empty :=
    load_of_missing (by decide +kernel)
  rcases readInput_deepInbox with ⟨json, read, bare, deep, files⟩
  rcases Option.bind_eq_some_iff.1 files with ⟨entries, areEntries, files⟩
  rcases Option.bind_eq_some_iff.1 files with ⟨next, imported, saved⟩
  have isSaved := eq_of_toOption ((save next (Location.ofText "data")).runOn deepInbox) saved
  have succeeded : (importInto deepInbox).code = 0 := by
    unfold importInto
    exact code_of_import rfl opened read (eq_ok_of_toOption areEntries) (eq_ok_of_toOption imported)
      isSaved
  refine ⟨opened, succeeded, ?_⟩
  unfold importInto at succeeded ⊢
  have isRoot : IsRoot deepInbox (Location.ofText "data") :=
    .inr ⟨eq_ok_of_toOption (by decide +kernel), by decide +kernel⟩
  rcases load_of_import_cases succeeded opened (by decide +kernel) isRoot (by decide +kernel)
    (by decide +kernel) (by decide +kernel) with ⟨other, _, _, isOther, _, _, outcome⟩
  rw [read, Except.ok.injEq] at isOther
  rw [← isOther] at outcome
  rcases outcome with ⟨-, bounded⟩ | ⟨failed, -⟩
  · cases json with
    | object members => exact absurd (bounded members rfl) deep
    | _ => cases bare
  · exact failed

end Examples

end DocStore.Command
