import DocStore.Proofs.Command.Importing

/-!
Contract: which entries can all be imported into a store.

An import stores every entry under a key: the one in the entry's key field, or a
fresh one. It goes through exactly when each entry is an object with a usable key,
no key is in the target collection already, and no two entries have the same.

Owns: `HasKey`, `HasUnusableKey`, `Admits` and the exact domain of `importEntries`.
-/

namespace DocStore.Command

variable {fresh : Nat → String} {file : String} {target : Target} {store : Store}

/-! ## Keys of entries -/

/-- An entry is stored under a key; one without a key of its own is given one. -/
def HasKey (given : String) (entry : Json) (key : String) : Prop :=
  ∃ document, Document.ofJson entry = .ok document ∧ Collection.keyFor given document = .ok key

theorem HasKey.unique {given key other : String} {entry : Json} (hasKey : HasKey given entry key)
    (hasOther : HasKey given entry other) : key = other := by
  rcases hasKey with ⟨document, isDocument, isKey⟩
  rcases hasOther with ⟨found, isFound, isOther⟩
  rw [isDocument, Except.ok.injEq] at isFound
  rw [isFound, isOther, Except.ok.injEq] at isKey
  exact isKey.symm

/-- The entry is an object whose key field holds something that is no string. -/
def HasUnusableKey (entry : Json) : Prop :=
  ∃ document value, Document.ofJson entry = .ok document ∧
    document.get? Document.keyField = some value ∧ ∀ key, value ≠ .string key

theorem keyFor_cases (given : String) (document : Document) :
    (∃ key, Collection.keyFor given document = .ok key) ∨
      ∃ value, document.get? Document.keyField = some value ∧ ∀ key, value ≠ .string key := by
  unfold Collection.keyFor
  split
  next => exact .inl ⟨given, rfl⟩
  next key _ => exact .inl ⟨key, rfl⟩
  next value noString found =>
    exact .inr ⟨value, found, noString⟩

theorem ofJson_object (members : List (String × Json)) :
    ∃ document, Document.ofJson (.object members) = .ok document := by
  unfold Document.ofJson
  rw [Value.ofJson]
  exact ⟨_, rfl⟩

/-- An entry has a key unless it is no object or has an unusable key. -/
theorem exists_hasKey_iff (given : String) (entry : Json) :
    (∃ key, HasKey given entry key) ↔
      (∃ members, entry = .object members) ∧ ¬HasUnusableKey entry := by
  constructor
  · rintro ⟨key, document, isDocument, isKey⟩
    refine ⟨?_, ?_⟩
    · cases entry with
      | object members => exact ⟨members, rfl⟩
      | _ => cases isDocument
    · rintro ⟨found, value, isFound, isId, noString⟩
      rw [isDocument, Except.ok.injEq] at isFound
      rw [← isFound] at isId
      unfold Collection.keyFor at isKey
      rw [isId] at isKey
      cases value with
      | string text => exact noString text rfl
      | _ => cases isKey
  · rintro ⟨⟨members, isObject⟩, usable⟩
    rcases ofJson_object members with ⟨document, isDocument⟩
    rw [← isObject] at isDocument
    rcases keyFor_cases given document with ⟨key, isKey⟩ | ⟨value, isId, noString⟩
    · exact ⟨key, document, isDocument, isKey⟩
    · exact absurd ⟨document, value, isDocument, isId, noString⟩ usable

/-! ## Entries that can all be inserted -/

/-- Every entry has a key, none of these is in the target collection, and no two are the same;
`fresh` supplies keys by position. -/
structure Admits (fresh : Nat → String) (target : Target) (store : Store) (entries : List Json) :
    Prop where
  keyed : ∀ position entry, entries[position]? = some entry →
    ∃ key, HasKey (fresh position) entry key
  unstored : ∀ position entry key document, entries[position]? = some entry →
    HasKey (fresh position) entry key →
      store.get? target.database target.collection key ≠ .ok (some document)
  distinct : ∀ first second entry other key, first < second → entries[first]? = some entry →
    entries[second]? = some other → HasKey (fresh first) entry key →
      ¬HasKey (fresh second) other key

theorem insert_of_keyFor {database collection given key : String} {document : Document}
    (isKey : Collection.keyFor given document = .ok key)
    (absent : ∀ stored, store.get? database collection key ≠ .ok (some stored)) :
    ∃ next, store.insert database collection given document = (.ok key, next) := by
  have free : (store.collectionOrEmpty database collection).documents.find? key = none := by
    apply Option.eq_none_iff_forall_ne_some.2
    intro stored found
    exact absent stored ((Store.find?_collectionOrEmpty ..).1 found)
  have added := (Collection.add_eq_ok_iff ..).2 ⟨isKey, free, rfl⟩
  unfold Store.insert Store.createCollection
  simp only [Store.collectionOrEmpty_putCollection, added]
  exact ⟨_, rfl⟩

/-- The first of the entries can be inserted, and the others after it. -/
theorem Admits.uncons {entry : Json} {rest : List Json}
    (admits : Admits fresh target store (entry :: rest)) :
    ∃ document key next, Document.ofJson entry = .ok document ∧
      store.insert target.database target.collection (fresh 0) document = (.ok key, next) ∧
      Admits (fun position => fresh (position + 1)) target next rest := by
  rcases admits.keyed 0 entry rfl with ⟨key, document, isDocument, isKey⟩
  have hasKey : HasKey (fresh 0) entry key := ⟨document, isDocument, isKey⟩
  rcases insert_of_keyFor isKey fun stored => admits.unstored 0 entry key stored rfl hasKey with
    ⟨next, inserted⟩
  refine ⟨document, key, next, isDocument, inserted, ?_⟩
  constructor
  · exact fun position other atPosition => admits.keyed (position + 1) other atPosition
  · intro position other otherKey stored atPosition otherHas isStored
    rw [Store.get?_insert inserted] at isStored
    rcases isStored with before | ⟨-, sameKey, -⟩
    · exact admits.unstored (position + 1) other otherKey stored atPosition otherHas before
    · rw [sameKey] at otherHas
      exact admits.distinct 0 (position + 1) entry other key (Nat.succ_pos position) rfl
        atPosition hasKey otherHas
  · intro first second firstEntry secondEntry otherKey before
    exact admits.distinct (first + 1) (second + 1) firstEntry secondEntry otherKey
      (Nat.succ_lt_succ before)

/-- Entries that can be inserted after another are not stored yet and do not have its key. -/
theorem Admits.cons {entry : Json} {rest : List Json} {document : Document} {key : String}
    {next : Store} (isDocument : Document.ofJson entry = .ok document)
    (inserted : store.insert target.database target.collection (fresh 0) document = (.ok key, next))
    (admits : Admits (fun position => fresh (position + 1)) target next rest) :
    Admits fresh target store (entry :: rest) := by
  have hasKey : HasKey (fresh 0) entry key :=
    ⟨document, isDocument, Store.keyFor_of_insert inserted⟩
  constructor
  · intro position other atPosition
    cases position with
    | zero =>
        rw [List.getElem?_cons_zero, Option.some.injEq] at atPosition
        exact ⟨key, atPosition ▸ hasKey⟩
    | succ position => exact admits.keyed position other atPosition
  · intro position other otherKey stored atPosition otherHas isStored
    cases position with
    | zero =>
        rw [List.getElem?_cons_zero, Option.some.injEq] at atPosition
        rw [← atPosition] at otherHas
        rw [otherHas.unique hasKey] at isStored
        rcases Store.insert_eq_ok inserted with ⟨grown, added, -⟩
        have absent := ((Collection.add_eq_ok_iff ..).1 added).2.1
        rw [(Store.find?_collectionOrEmpty ..).2 isStored] at absent
        cases absent
    | succ position =>
        apply admits.unstored position other otherKey stored atPosition otherHas
        exact (Store.get?_insert inserted ..).2 (.inl isStored)
  · intro first second firstEntry secondEntry otherKey before atFirst atSecond firstHas secondHas
    cases second with
    | zero => exact absurd before (Nat.not_lt_zero first)
    | succ second =>
        cases first with
        | zero =>
            rw [List.getElem?_cons_zero, Option.some.injEq] at atFirst
            rw [← atFirst] at firstHas
            rw [firstHas.unique hasKey] at secondHas
            apply admits.unstored second secondEntry key (document.withKey key) atSecond secondHas
            exact (Store.get?_insert inserted ..).2 (.inr ⟨⟨rfl, rfl⟩, rfl, rfl⟩)
        | succ first =>
            exact admits.distinct first second firstEntry secondEntry otherKey
              (Nat.lt_of_succ_lt_succ before) atFirst atSecond firstHas secondHas

theorem admits_cons (entry : Json) (rest : List Json) :
    Admits fresh target store (entry :: rest) ↔
      ∃ document key next, Document.ofJson entry = .ok document ∧
        store.insert target.database target.collection (fresh 0) document = (.ok key, next) ∧
        Admits (fun position => fresh (position + 1)) target next rest := by
  constructor
  · exact Admits.uncons
  · rintro ⟨document, key, next, isDocument, inserted, admits⟩
    exact admits.cons isDocument inserted

theorem importEntries_cons_eq_ok_iff (position : Nat) (store final : Store) (entry : Json)
    (rest : List Json) :
    importEntries fresh file target position store (entry :: rest) = .ok final ↔
      ∃ document key next, Document.ofJson entry = .ok document ∧
        store.insert target.database target.collection (fresh position) document =
          (.ok key, next) ∧
        importEntries fresh file target (position + 1) next rest = .ok final := by
  refine ⟨importEntries_cons_eq_ok, ?_⟩
  rintro ⟨document, key, next, isDocument, inserted, restImported⟩
  rw [importEntries, bind_eq_ok_iff]
  refine ⟨document, (within_eq_ok_iff ..).2 isDocument, ?_⟩
  rw [bind_eq_ok_iff]
  refine ⟨key, (within_eq_ok_iff ..).2 ?_, ?_⟩
  · rw [inserted]
  · rw [inserted]
    exact restImported

/-- Entries are all imported exactly when each of them has a key of its own. -/
theorem exists_importEntries_iff (entries : List Json) :
    ∀ {position : Nat} {store : Store},
      (∃ final, importEntries fresh file target position store entries = .ok final) ↔
        Admits (fun offset => fresh (position + offset)) target store entries := by
  induction entries with
  | nil =>
      intro position store
      refine iff_of_true ⟨store, rfl⟩ ⟨?_, ?_, ?_⟩
      · exact fun offset entry found => nomatch found
      · exact fun offset entry key document found => nomatch found
      · exact fun first second entry other key before found => nomatch found
  | cons entry rest inductionHypothesis =>
      intro position store
      have shifted : (fun offset => fresh (position + (offset + 1))) =
          fun offset => fresh (position + 1 + offset) := by
        funext offset
        rw [Nat.add_comm offset 1, Nat.add_assoc]
      rw [admits_cons, shifted]
      simp only [importEntries_cons_eq_ok_iff, ← inductionHypothesis]
      constructor
      · rintro ⟨final, document, key, next, isDocument, inserted, restImported⟩
        exact ⟨document, key, next, isDocument, inserted, final, restImported⟩
      · rintro ⟨document, key, next, isDocument, inserted, final, restImported⟩
        exact ⟨final, document, key, next, isDocument, inserted, restImported⟩

end DocStore.Command
