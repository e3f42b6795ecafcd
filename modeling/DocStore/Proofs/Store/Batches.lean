import DocStore.Proofs.Store.Refusal

/-!
Contract: inserting a batch is inserting its documents one after another.

A batch creates its collection and then goes on to the first document that is
refused, which ends it: the documents before it have been stored under their
keys, listed in every index and counted, those behind it have not been looked at.
A document is refused when its key is no string, when the collection had a
document with its key, or when an earlier document of the batch has taken it.

Owns: `Store.insertEach`, `Collection.GrownBy`, `Collection.Stops` and the laws of
`Store.insertMany`.
-/

namespace DocStore

/-! ## Collections that take in a batch -/

namespace Collection

/-- The documents of a batch as they are stored, each behind its key; a list of keys that is
shorter leaves out the last documents. -/
def batched (documents : List Document) (keys : List String) : List (String × Document) :=
  List.zipWith (fun document key => (key, document.withKey key)) documents keys

/-- A collection has taken in the first documents of a batch, one under each of the keys. -/
structure GrownBy (content : Collection) (fresh : Nat → String) (documents : List Document)
    (keys : List String) (grown : Collection) : Prop where
  keyed : ∀ position key, keys[position]? = some key →
    ∃ document, documents[position]? = some document ∧
      keyFor (fresh position) document = .ok key
  distinct : keys.Nodup
  unused : ∀ key ∈ keys, content.documents.find? key = none
  stored : ∀ key document, grown.documents.find? key = some document ↔
    content.documents.find? key = some document ∨ (key, document) ∈ batched documents keys
  indexed : grown.indexes = content.indexes.mapValues fun index =>
    (batched documents keys).foldl (fun listed entry => listed.insert entry.2) index
  /-- Where documents and indexes agreed before, every index is the one that building anew over
  all documents gives. -/
  rebuilt : content.Sound → ∀ field, grown.indexes.find? field =
    (content.indexes.find? field).map fun _ => Index.build field grown.documents.values
  counted : grown.count = content.count + keys.length

/-- Why a batch that has used some keys ends at a document. -/
inductive Stops (content : Collection) (keys : List String) (fresh : String)
    (document : Document) : Error → Prop
  | keyNotString {fault : Error} (noKey : keyFor fresh document = .error fault) :
      Stops content keys fresh document fault
  | keyTaken {key : String} {stored : Document} (isKey : keyFor fresh document = .ok key)
      (taken : content.documents.find? key = some stored) :
      Stops content keys fresh document (.duplicateKey key)
  | keyRepeated {key : String} (isKey : keyFor fresh document = .ok key) (used : key ∈ keys) :
      Stops content keys fresh document (.duplicateKey key)

/-- A batch has ended: all its documents have been taken in, or the next one is refused. -/
inductive Ends (content : Collection) (fresh : Nat → String) (documents : List Document)
    (keys : List String) : Except Error (List String) → Prop
  | whole (complete : keys.length = documents.length) :
      Ends content fresh documents keys (.ok keys)
  | stopped {document : Document} {fault : Error}
      (next : documents[keys.length]? = some document)
      (stops : content.Stops keys (fresh keys.length) document fault) :
      Ends content fresh documents keys (.error fault)

variable {content next grown : Collection} {fresh : Nat → String} {key first : String}
  {document : Document} {documents : List Document} {keys : List String}

theorem grownBy_nil (content : Collection) (fresh : Nat → String) (documents : List Document) :
    content.GrownBy fresh documents [] content where
  keyed := fun _ _ atPosition => nomatch atPosition
  distinct := List.nodup_nil
  unused := fun _ member => nomatch member
  stored := by simp [batched]
  indexed := by
    apply SortedMap.ext
    intro field
    rw [SortedMap.find?_mapValues]
    cases content.indexes.find? field with
    | none => rfl
    | some index => simp [batched]
  rebuilt := by
    intro sound field
    cases atField : content.indexes.find? field with
    | none => rfl
    | some index => exact congrArg some (sound.indexed field index atField)
  counted := rfl

/-- What a collection finds after one document more. -/
theorem find?_add (added : content.add first document = .ok (key, next)) (other : String) :
    next.documents.find? other =
      if other = key then some (document.withKey key) else content.documents.find? other := by
  obtain ⟨-, -, isNext⟩ := (add_eq_ok_iff ..).1 added
  rw [isNext]
  exact SortedMap.find?_insert ..

/-- A batch that goes on after its first document has taken in one document more. -/
theorem GrownBy.cons (added : content.add (fresh 0) document = .ok (key, next))
    (grows : next.GrownBy (fun position => fresh (position + 1)) documents keys grown) :
    content.GrownBy fresh (document :: documents) (key :: keys) grown where
  keyed := by
    intro position other atPosition
    cases position with
    | zero =>
        obtain ⟨isKey, -, -⟩ := (add_eq_ok_iff ..).1 added
        cases atPosition
        exact ⟨document, rfl, isKey⟩
    | succ position => exact grows.keyed position other atPosition
  distinct := by
    refine List.nodup_cons.2 ⟨fun again => ?_, grows.distinct⟩
    have absent := grows.unused key again
    rw [find?_add added, if_pos rfl] at absent
    cases absent
  unused := by
    obtain ⟨-, absent, -⟩ := (add_eq_ok_iff ..).1 added
    refine List.forall_mem_cons.2 ⟨absent, fun other member => ?_⟩
    have notNext := grows.unused other member
    rw [find?_add added] at notNext
    split at notNext
    · cases notNext
    · exact notNext
  stored := by
    intro other found
    obtain ⟨-, absent, -⟩ := (add_eq_ok_iff ..).1 added
    have split : batched (document :: documents) (key :: keys) =
        (key, document.withKey key) :: batched documents keys := rfl
    rw [grows.stored, find?_add added, split, List.mem_cons, Prod.mk.injEq, ← or_assoc]
    apply or_congr_left
    by_cases same : other = key
    · rw [if_pos same, same, absent, Option.some.injEq]
      simp [eq_comm]
    · rw [if_neg same]
      simp [same]
  indexed := by
    obtain ⟨-, -, isNext⟩ := (add_eq_ok_iff ..).1 added
    rw [grows.indexed, isNext]
    apply SortedMap.ext
    intro field
    rw [SortedMap.find?_mapValues, SortedMap.find?_mapValues, SortedMap.find?_mapValues,
      Option.map_map]
    rfl
  rebuilt := by
    intro sound field
    obtain ⟨-, -, isNext⟩ := (add_eq_ok_iff ..).1 added
    rw [grows.rebuilt (sound.add added), isNext, SortedMap.find?_mapValues, Option.map_map]
    rfl
  counted := by
    obtain ⟨-, -, isNext⟩ := (add_eq_ok_iff ..).1 added
    rw [grows.counted, isNext, List.length_cons]
    show content.count + 1 + keys.length = content.count + (keys.length + 1)
    omega

/-- What refuses a document after the first refuses it in the whole batch. -/
theorem Stops.cons {fault : Error} {last : Document} {suggested : String}
    (added : content.add first document = .ok (key, next))
    (stops : next.Stops keys suggested last fault) :
    content.Stops (key :: keys) suggested last fault := by
  cases stops with
  | keyNotString noKey => exact .keyNotString noKey
  | keyTaken isKey taken =>
      rw [find?_add added] at taken
      split at taken
      next same => exact .keyRepeated isKey (same ▸ List.mem_cons_self)
      next => exact .keyTaken isKey taken
  | keyRepeated isKey used => exact .keyRepeated isKey (List.mem_cons_of_mem _ used)

theorem Ends.cons {outcome : Except Error (List String)}
    (added : content.add (fresh 0) document = .ok (key, next))
    (ends : next.Ends (fun position => fresh (position + 1)) documents keys outcome) :
    content.Ends fresh (document :: documents) (key :: keys) (outcome.map (key :: ·)) := by
  cases ends with
  | whole complete => exact .whole (congrArg (· + 1) complete)
  | stopped next stops => exact .stopped next (stops.cons added)

end Collection

/-! ## Batches on a collection -/

namespace Store

open Collection (GrownBy Ends)

theorem addAll_cons {content next : Collection} {fresh : Nat → String} {document : Document}
    {key : String} (added : content.add (fresh 0) document = .ok (key, next))
    (rest : List Document) :
    addAll content fresh (document :: rest) =
      let (outcome, final) := addAll next (fun position => fresh (position + 1)) rest
      (outcome.map (key :: ·), final) := by
  simp only [addAll, added]
  rcases addAll next (fun position => fresh (position + 1)) rest with ⟨outcome, final⟩
  cases outcome <;> rfl

/-- A batch takes in the documents before the first that is refused. -/
theorem exists_grownBy (documents : List Document) :
    ∀ (content : Collection) (fresh : Nat → String),
      ∃ keys, content.GrownBy fresh documents keys (addAll content fresh documents).2 ∧
        content.Ends fresh documents keys (addAll content fresh documents).1 := by
  induction documents with
  | nil =>
      intro content fresh
      exact ⟨[], Collection.grownBy_nil content fresh [], .whole rfl⟩
  | cons document rest inductionHypothesis =>
      intro content fresh
      cases added : content.add (fresh 0) document with
      | error fault =>
          have refused : addAll content fresh (document :: rest) = (.error fault, content) := by
            simp only [addAll, added]
          rw [refused]
          refine ⟨[], Collection.grownBy_nil content fresh _, .stopped rfl ?_⟩
          rcases (add_eq_error_iff ..).1 added with noKey | ⟨key, stored, isKey, taken, isFault⟩
          · exact .keyNotString noKey
          · rw [isFault]
            exact .keyTaken isKey taken
      | ok result =>
          obtain ⟨key, next⟩ := result
          obtain ⟨keys, grows, ends⟩ :=
            inductionHypothesis next fun position => fresh (position + 1)
          rw [addAll_cons added]
          exact ⟨key :: keys, grows.cons added, ends.cons added⟩

/-! ## Batches on a store -/

/-- Inserts documents one after another up to the first that is refused; `fresh` supplies a key
for every position. -/
def insertEach (store : Store) (database collection : String) (fresh : Nat → String) :
    List Document → Except Error (List String) × Store
  | [] => (.ok [], store)
  | document :: rest =>
      match store.insert database collection (fresh 0) document with
      | (.error fault, left) => (.error fault, left)
      | (.ok key, next) =>
          let (outcome, final) :=
            next.insertEach database collection (fun position => fresh (position + 1)) rest
          (outcome.map (key :: ·), final)

variable {database collection : String}

theorem putCollection_putCollection (store : Store) (before after : Collection) :
    (store.putCollection database collection before).putCollection database collection after =
      store.putCollection database collection after := by
  unfold putCollection
  simp only [SortedMap.find?_insert_self, Option.getD_some, SortedMap.insert_insert]

/-- Inserting into a collection that is there adds to it, and puts back what is left of it. -/
theorem insert_putCollection (store : Store) (content : Collection) (fresh : String)
    (document : Document) :
    (store.putCollection database collection content).insert database collection fresh document =
      match content.add fresh document with
      | .ok (key, next) => (.ok key, store.putCollection database collection next)
      | .error fault => (.error fault, store.putCollection database collection content) := by
  cases added : content.add fresh document <;>
    simp only [insert, createCollection, collectionOrEmpty_putCollection,
      putCollection_putCollection, added]

theorem insertEach_putCollection (store : Store) (documents : List Document) :
    ∀ (content : Collection) (fresh : Nat → String),
      (store.putCollection database collection content).insertEach database collection fresh
          documents =
        ((addAll content fresh documents).1,
          store.putCollection database collection (addAll content fresh documents).2) := by
  induction documents with
  | nil => exact fun _ _ => rfl
  | cons document rest inductionHypothesis =>
      intro content fresh
      rw [insertEach, insert_putCollection]
      cases added : content.add (fresh 0) document with
      | error fault => simp only [addAll, added]
      | ok result =>
          obtain ⟨key, next⟩ := result
          simp only
          rw [inductionHypothesis, addAll_cons added]

/-- A batch leaves the store, and answers, as creating the collection and inserting the documents
one after another up to the first that is refused. The documents before that one, all of them if
there is none, are stored, listed and counted under the keys that the batch has used, and no other
collection changes. -/
theorem insertMany_exact (store : Store) (database collection : String) (fresh : Nat → String)
    (documents : List Document) :
    store.insertMany database collection fresh documents =
        (store.createCollection database collection).insertEach database collection fresh
          documents ∧
      (∃ keys grown,
        (store.insertMany database collection fresh documents).2.collection database collection =
            .ok grown ∧
          (store.collectionOrEmpty database collection).GrownBy fresh documents keys grown ∧
          (store.collectionOrEmpty database collection).Ends fresh documents keys
            (store.insertMany database collection fresh documents).1) ∧
      ∀ otherDatabase otherCollection,
        ¬(otherDatabase = database ∧ otherCollection = collection) → ∀ content,
          (store.insertMany database collection fresh documents).2.collection otherDatabase
              otherCollection = .ok content ↔
            store.collection otherDatabase otherCollection = .ok content := by
  refine ⟨?_, ?_, ?_⟩
  · exact (insertEach_putCollection store documents _ fresh).symm
  · obtain ⟨keys, grows, ends⟩ :=
      exists_grownBy documents (store.collectionOrEmpty database collection) fresh
    refine ⟨keys, _, ?_, grows, ends⟩
    exact (collection_putCollection_eq_ok_iff ..).2 (by rw [if_pos ⟨rfl, rfl⟩])
  · intro otherDatabase otherCollection elsewhere content
    refine (collection_putCollection_eq_ok_iff ..).trans ?_
    rw [if_neg elsewhere]

private def counter : Store :=
  [Operation.insert "db" "c" "" { fields := [("_id", .string "a")] }, .createIndex "db" "c" "n",
    .createCollection "db" "e"].foldl after Store.empty

private theorem counter_reachable : counter.Reachable :=
  Reachable.empty.afterAll _

private def numberedKey (position : Nat) : String := String.ofList ['k', Nat.digitChar position]

/-- A document without a key, two with the key `b`, and one that comes too late. -/
private def delivery : List Document :=
  [⟨[("n", .null)]⟩, ⟨[("_id", .string "b")]⟩, ⟨[("_id", .string "b"), ("n", .null)]⟩,
    ⟨[("_id", .string "z")]⟩]

/-- The second `b` ends the batch. The two documents before it are there and indexed, the one
behind it is not, and the collection next to theirs is as it was. -/
theorem insertMany_exact_repeated :
    (counter.insertMany "db" "c" numberedKey delivery).1 = .error (.duplicateKey "b") ∧
      (∃ grown,
        (counter.insertMany "db" "c" numberedKey delivery).2.collection "db" "c" = .ok grown ∧
          grown.documents.keys = ["a", "b", "k0"] ∧ grown.count = 3 ∧
          grown.indexes.find? "n" = some (Index.build "n" grown.documents.values)) ∧
      ∀ content, (counter.insertMany "db" "c" numberedKey delivery).2.collection "db" "e" =
          .ok content ↔ counter.collection "db" "e" = .ok content := by
  obtain ⟨oneByOne, ⟨keys, grown, found, grows, -⟩, elsewhere⟩ :=
    insertMany_exact counter "db" "c" numberedKey delivery
  have sound : (counter.collectionOrEmpty "db" "c").Sound :=
    holds_collectionOrEmpty Collection.closed_sound counter_reachable.sound "db" "c"
  have isIndexed : ((counter.collectionOrEmpty "db" "c").indexes.find? "n").isSome = true := by
    decide +kernel
  have outcome : errorOf? ((counter.createCollection "db" "c").insertEach "db" "c" numberedKey
      delivery).1 = some (.duplicateKey "b") := by decide +kernel
  have present : ((counter.insertMany "db" "c" numberedKey delivery).2.collection "db"
      "c").toOption.map (fun content => (content.documents.keys, content.count)) =
        some (["a", "b", "k0"], 3) := by decide +kernel
  refine ⟨?_, ⟨grown, found, ?_⟩, elsewhere "db" "e" (by decide)⟩
  · rw [oneByOne]
    exact (errorOf?_eq_some_iff ..).1 outcome
  · rw [found] at present
    obtain ⟨sameKeys, sameCount⟩ := Prod.mk.inj (Option.some.inj present)
    obtain ⟨index, atField⟩ := Option.isSome_iff_exists.1 isIndexed
    exact ⟨sameKeys, sameCount, by rw [grows.rebuilt sound, atField]; rfl⟩

end Store

end DocStore
