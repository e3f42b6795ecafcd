import DocStore.SortedMap.Basic

/-!
Contract: what sorted maps and key sets answer after every operation.

Filtering and changing contents are read off entry by entry; keys and contents
in their order are the answers themselves; a key set is determined by what it
contains. The number of entries follows insertion and erasure.

Owns: one reading law per operation of maps and key sets that changes no order.
-/

namespace DocStore

namespace Entries

variable {Key : Type u} {Content : Type v} [Ord Key]

/-- Whether entries are sorted shows in their keys. -/
theorem sorted_iff_keys (entries : List (Key × Content)) :
    Sorted entries ↔
      (entries.map Prod.fst).Pairwise fun left right => compare left right = .lt := by
  rw [Sorted, List.pairwise_map]

theorem insert_of_greater [Std.TransOrd Key] {key : Key} (content : Content)
    {entries : List (Key × Content)} (greater : ∀ entry ∈ entries, compare entry.1 key = .lt) :
    insert key content entries = entries ++ [(key, content)] := by
  induction entries with
  | nil => rfl
  | cons first rest inductionHypothesis =>
      have order : compare key first.1 = .gt :=
        Std.OrientedCmp.gt_of_lt (greater first (List.mem_cons_self ..))
      rw [insert, order]
      simp only
      rw [inductionHypothesis fun entry member => greater entry (List.mem_cons_of_mem _ member)]
      rfl

/-- Putting in what is there already changes nothing. -/
theorem insert_of_find?_eq_some [Std.TransOrd Key] [Std.LawfulEqOrd Key] {key : Key}
    {content : Content} {entries : List (Key × Content)} (sorted : Sorted entries)
    (present : find? key entries = some content) : insert key content entries = entries := by
  apply (sorted.insert key content).ext sorted
  intro other
  by_cases same : other = key
  · rw [same, find?_insert_self, present]
  · rw [find?_insert_of_ne same]

/-- Collecting entries adds none. -/
theorem mem_of_mem_ofList {entries : List (Key × Content)} {entry : Key × Content}
    (member : entry ∈ ofList entries) : entry ∈ entries := by
  have collects : ∀ (more collected : List (Key × Content)),
      entry ∈ more.foldl (fun collected next => insert next.1 next.2 collected) collected →
        entry ∈ more ∨ entry ∈ collected := by
    intro more
    induction more with
    | nil => exact fun collected inside => .inr inside
    | cons next rest inductionHypothesis =>
        intro collected inside
        rcases inductionHypothesis _ inside with inRest | inCollected
        · exact .inl (List.mem_cons_of_mem _ inRest)
        · rcases mem_insert inCollected with isNext | before
          · exact .inl (isNext ▸ List.mem_cons_self)
          · exact .inr before
  rcases collects entries [] member with inside | collected
  · exact inside
  · cases collected

/-- Collecting entries that are already in order changes nothing. -/
theorem ofList_of_sorted [Std.TransOrd Key] {entries : List (Key × Content)}
    (sorted : Sorted entries) : ofList entries = entries := by
  have collected : ∀ before : List (Key × Content), Sorted (before ++ entries) →
      entries.foldl (fun collected entry => insert entry.1 entry.2 collected) before =
        before ++ entries := by
    induction entries with
    | nil => exact fun before _ => (List.append_nil before).symm
    | cons first rest inductionHypothesis =>
        intro before ordered
        have greater : ∀ entry ∈ before, compare entry.1 first.1 = .lt := by
          intro entry member
          exact (List.pairwise_append.1 ordered).2.2 entry member first (List.mem_cons_self ..)
        rw [List.foldl_cons, insert_of_greater first.2 greater,
          inductionHypothesis (List.Pairwise.of_cons sorted) _ (by simpa using ordered)]
        simp
  exact collected [] sorted

theorem find?_filter [Std.LawfulEqOrd Key] {entries : List (Key × Content)}
    (sorted : Sorted entries) (keep : Key → Content → Bool) (key : Key) :
    find? key (entries.filter fun entry => keep entry.1 entry.2) =
      (find? key entries).filter (keep key) := by
  induction entries with
  | nil => rfl
  | cons first rest inductionHypothesis =>
      obtain ⟨other, content⟩ := first
      obtain ⟨before, restSorted⟩ := List.pairwise_cons.1 sorted
      have restCase := inductionHypothesis restSorted
      by_cases order : compare key other = .eq
      · have same : key = other := Std.LawfulEqOrd.eq_of_compare order
        subst same
        cases kept : keep key content with
        | true => simp [find?, kept, Option.filter]
        | false =>
            -- The entry is dropped, and no later entry has its key.
            have absent : find? key rest = none := Sorted.find?_eq_none_of_lt before
            rw [absent] at restCase
            simpa [find?, kept, Option.filter] using restCase
      · cases kept : keep other content <;> simpa [find?, kept, order] using restCase

theorem find?_map {Result : Type w} (change : Content → Result)
    (entries : List (Key × Content)) (key : Key) :
    find? key (entries.map fun entry => (entry.1, change entry.2)) =
      (find? key entries).map change := by
  induction entries with
  | nil => rfl
  | cons first rest inductionHypothesis =>
      obtain ⟨other, content⟩ := first
      by_cases order : compare key other = .eq
      · simp [find?, order]
      · simpa [find?, order] using inductionHypothesis

/-- An entry with a new key is added to those that are there. -/
theorem perm_insert_of_absent [Std.LawfulEqOrd Key] {key : Key} (content : Content)
    {entries : List (Key × Content)} (absent : find? key entries = none) :
    (insert key content entries).Perm ((key, content) :: entries) := by
  induction entries with
  | nil => exact .refl _
  | cons first rest inductionHypothesis =>
      obtain ⟨other, present⟩ := first
      rw [find?] at absent
      rw [insert]
      cases order : compare key other with
      | lt => exact .refl _
      | eq => simp [order] at absent
      | gt =>
          rw [order] at absent
          exact ((inductionHypothesis absent).cons _).trans (.swap _ _ _)

/-- An entry with a new key makes the list longer by one. -/
theorem length_insert_of_absent [Std.LawfulEqOrd Key] {key : Key} (content : Content)
    {entries : List (Key × Content)} (absent : find? key entries = none) :
    (insert key content entries).length = entries.length + 1 :=
  (perm_insert_of_absent content absent).length_eq

theorem length_erase_of_present [Std.LawfulEqOrd Key] {key : Key} {content : Content}
    {entries : List (Key × Content)} (sorted : Sorted entries)
    (present : find? key entries = some content) :
    (erase key entries).length + 1 = entries.length := by
  induction entries with
  | nil => cases present
  | cons first rest inductionHypothesis =>
      obtain ⟨other, otherContent⟩ := first
      obtain ⟨before, restSorted⟩ := List.pairwise_cons.1 sorted
      by_cases order : compare key other = .eq
      · have same : key = other := Std.LawfulEqOrd.eq_of_compare order
        subst same
        have absent : find? key rest = none := Sorted.find?_eq_none_of_lt before
        have unchanged := erase_of_find?_eq_none absent
        simp only [erase] at unchanged
        simp [erase, unchanged]
      · have inRest : find? key rest = some content := by simpa [find?, order] using present
        have restCase := inductionHypothesis restSorted inRest
        simp only [erase] at restCase
        simp [erase, order, restCase]

end Entries

namespace SortedMap

variable {Key : Type u} {Content : Type v} [Ord Key]

/-! ## Answers after an operation -/

@[simp] theorem find?_filter [Std.LawfulEqOrd Key] (map : SortedMap Key Content)
    (keep : Key → Content → Bool) (key : Key) :
    (map.filter keep).find? key = (map.find? key).filter (keep key) :=
  Entries.find?_filter map.sorted keep key

@[simp] theorem find?_mapValues {Result : Type w} (change : Content → Result)
    (map : SortedMap Key Content) (key : Key) :
    (map.mapValues change).find? key = (map.find? key).map change :=
  Entries.find?_map change map.entries key

theorem find?_insert [Std.TransOrd Key] [Std.LawfulEqOrd Key] [DecidableEq Key]
    (map : SortedMap Key Content) (key other : Key) (content : Content) :
    (map.insert key content).find? other =
      if other = key then some content else map.find? other := by
  by_cases same : other = key
  · rw [if_pos same, same, find?_insert_self]
  · rw [if_neg same, find?_insert_of_ne map same]

theorem find?_erase [Std.LawfulEqOrd Key] [DecidableEq Key] (map : SortedMap Key Content)
    (key other : Key) :
    (map.erase key).find? other = if other = key then none else map.find? other := by
  by_cases same : other = key
  · rw [if_pos same, same, find?_erase_self]
  · rw [if_neg same, find?_erase_of_ne map same]

/-- What is put in last under a key stays. -/
@[simp] theorem insert_insert [Std.TransOrd Key] [Std.LawfulEqOrd Key] (map : SortedMap Key Content)
    (key : Key) (before after : Content) :
    (map.insert key before).insert key after = map.insert key after := by
  simp only [insert, Entries.insert_insert]

/-! ## Walks -/

theorem mem_keys_iff [Std.LawfulEqOrd Key] (map : SortedMap Key Content) (key : Key) :
    key ∈ map.keys ↔ map.contains key = true := by
  rw [contains, Option.isSome_iff_exists]
  simp only [keys, List.mem_map, Prod.exists, exists_and_right, exists_eq_right]
  exact exists_congr fun content => map.mem_toList_iff key content

theorem mem_values_iff [Std.LawfulEqOrd Key] (map : SortedMap Key Content)
    (content : Content) : content ∈ map.values ↔ ∃ key, map.find? key = some content := by
  simp only [values, List.mem_map, Prod.exists, exists_eq_right]
  exact exists_congr fun key => map.mem_toList_iff key content

/-- The keys of a map are walked in strictly increasing order. -/
theorem keys_pairwise (map : SortedMap Key Content) :
    map.keys.Pairwise fun left right => compare left right = .lt :=
  List.pairwise_map.2 map.sorted

@[simp] theorem keys_mapValues {Result : Type w} (change : Content → Result)
    (map : SortedMap Key Content) : (map.mapValues change).keys = map.keys := by
  simp [keys, mapValues]

@[simp] theorem values_mapValues {Result : Type w} (change : Content → Result)
    (map : SortedMap Key Content) : (map.mapValues change).values = map.values.map change := by
  simp [values, mapValues]

/-- A filter that looks at contents alone can be applied to the contents in their order. -/
theorem values_filter (keep : Content → Bool) (map : SortedMap Key Content) :
    (map.filter fun _ content => keep content).values = map.values.filter keep := by
  simp only [values, filter, List.filter_map]
  rfl

/-- Filtering takes contents away and leaves the others in their order. -/
theorem sublist_values_filter (keep : Key → Content → Bool) (map : SortedMap Key Content) :
    (map.filter keep).values.Sublist map.values :=
  List.filter_sublist.map Prod.snd

/-- A map without keys that are found is empty. -/
theorem isEmpty_eq_false_iff [Std.LawfulEqOrd Key] (map : SortedMap Key Content) :
    map.isEmpty = false ↔ ∃ key, map.contains key = true := by
  have shape : map.isEmpty = false ↔ ∃ entry, entry ∈ map.toList := by
    rw [isEmpty, toList, List.isEmpty_eq_false_iff_exists_mem]
  rw [shape]
  constructor
  · rintro ⟨⟨key, content⟩, member⟩
    exact ⟨key, by rw [contains, (map.mem_toList_iff key content).1 member]; rfl⟩
  · rintro ⟨key, present⟩
    obtain ⟨content, found⟩ := Option.isSome_iff_exists.1 present
    exact ⟨(key, content), (map.mem_toList_iff key content).2 found⟩

theorem contains_of_isEmpty [Std.LawfulEqOrd Key] {map : SortedMap Key Content}
    (isEmpty : map.isEmpty = true) (key : Key) : map.contains key = false := by
  cases present : map.contains key with
  | false => rfl
  | true =>
      have occupied := map.isEmpty_eq_false_iff.2 ⟨key, present⟩
      rw [isEmpty] at occupied
      cases occupied

theorem ext_entries [Std.TransOrd Key] [Std.LawfulEqOrd Key] {left right : SortedMap Key Content}
    (same : ∀ key content, (key, content) ∈ left.toList ↔ (key, content) ∈ right.toList) :
    left = right := by
  apply ext
  intro key
  apply Option.ext
  intro content
  rw [← mem_toList_iff, ← mem_toList_iff]
  exact same key content

/-- Looking up the keys of a set one by one gives the contents under those keys in key order. -/
theorem filterMap_find?_keys [Std.TransOrd Key] [Std.LawfulEqOrd Key] (set : SortedMap Key Unit)
    (map : SortedMap Key Content) :
    set.keys.filterMap map.find? = (map.filter fun key _ => set.contains key).values := by
  let entryAt : Key → Option (Key × Content) := fun key =>
    (map.find? key).map fun content => (key, content)
  have mem_entryAt : ∀ key entry, entryAt key = some entry ↔
      entry.1 = key ∧ map.find? key = some entry.2 := by
    intro key entry
    simp only [entryAt, Option.map_eq_some_iff]
    constructor
    · rintro ⟨content, found, rfl⟩
      exact ⟨rfl, found⟩
    · rintro ⟨rfl, found⟩
      exact ⟨entry.2, found, rfl⟩
  let found : SortedMap Key Content := ⟨set.keys.filterMap entryAt, by
    unfold Entries.Sorted
    rw [List.pairwise_filterMap]
    refine set.keys_pairwise.imp ?_
    intro left right before leftEntry isLeft rightEntry isRight
    rw [((mem_entryAt left leftEntry).1 isLeft).1, ((mem_entryAt right rightEntry).1 isRight).1]
    exact before⟩
  have same : found = map.filter fun key _ => set.contains key := by
    apply ext_entries
    intro key content
    rw [mem_toList_iff (map.filter _), find?_filter, Option.filter_eq_some_iff]
    simp only [toList, found, List.mem_filterMap, mem_keys_iff, mem_entryAt]
    constructor
    · rintro ⟨_, isKey, rfl, atKey⟩
      exact ⟨atKey, isKey⟩
    · rintro ⟨atKey, isKey⟩
      exact ⟨key, isKey, rfl, atKey⟩
  rw [← same]
  simp only [values, found, entryAt, List.map_filterMap, Option.map_map]
  congr 1
  funext key
  cases map.find? key <;> rfl

theorem eq_of_entries {left right : SortedMap Key Content}
    (same : left.entries = right.entries) : left = right := by
  cases left
  cases right
  cases same
  rfl

theorem isEmpty_keys (map : SortedMap Key Content) : map.keys.isEmpty = map.isEmpty :=
  List.isEmpty_map

/-- Maps that contain the same keys walk them alike. -/
theorem keys_ext [Std.TransOrd Key] [Std.LawfulEqOrd Key] {Other : Type w}
    {left : SortedMap Key Content} {right : SortedMap Key Other}
    (same : ∀ key, left.contains key = right.contains key) : left.keys = right.keys := by
  have sameSets : (left.mapValues fun _ => ()) = right.mapValues fun _ => () := by
    apply ext
    intro key
    have sameKey := same key
    unfold contains at sameKey
    rw [find?_mapValues, find?_mapValues]
    cases leftFound : left.find? key <;> cases rightFound : right.find? key <;> simp_all
  rw [← keys_mapValues (fun _ => ()) left, sameSets, keys_mapValues]

/-! ## Number of entries -/

theorem size_insert_of_absent [Std.TransOrd Key] [Std.LawfulEqOrd Key]
    (map : SortedMap Key Content) {key : Key} (content : Content)
    (absent : map.find? key = none) : (map.insert key content).size = map.size + 1 :=
  Entries.length_insert_of_absent content absent

theorem size_erase_of_present [Std.LawfulEqOrd Key] (map : SortedMap Key Content) {key : Key}
    {content : Content} (present : map.find? key = some content) :
    (map.erase key).size + 1 = map.size :=
  Entries.length_erase_of_present map.sorted present

end SortedMap

/-! ## Key sets -/

namespace KeySet

@[ext] theorem ext {left right : KeySet}
    (same : ∀ key, left.contains key = right.contains key) : left = right := by
  apply SortedMap.ext
  intro key
  have sameKey := same key
  simp only [SortedMap.contains] at sameKey
  cases leftFound : left.find? key <;> cases rightFound : right.find? key <;>
    simp_all

@[simp] theorem contains_empty (key : String) :
    SortedMap.contains (SortedMap.empty : KeySet) key = false := rfl

@[simp] theorem contains_insert (set : KeySet) (key other : String) :
    (KeySet.insert set key).contains other = (decide (other = key) || set.contains other) := by
  simp only [KeySet.insert, SortedMap.contains, SortedMap.find?_insert]
  by_cases same : other = key <;> simp [same]

theorem contains_foldl_insert (keys : List String) (set : KeySet) (key : String) :
    (keys.foldl KeySet.insert set).contains key = (decide (key ∈ keys) || set.contains key) := by
  induction keys generalizing set with
  | nil => simp
  | cons first rest inductionHypothesis =>
      rw [List.foldl_cons, inductionHypothesis, contains_insert]
      by_cases isFirst : key = first <;> simp [isFirst]

@[simp] theorem contains_union (left right : KeySet) (key : String) :
    (left.union right).contains key = (left.contains key || right.contains key) := by
  rw [KeySet.union, contains_foldl_insert, Bool.or_comm]
  congr 1
  rw [Bool.eq_iff_iff, decide_eq_true_iff]
  exact right.mem_keys_iff key

theorem contains_filter (set : KeySet) (keep : String → Unit → Bool) (key : String) :
    (set.filter keep).contains key = (set.contains key && keep key ()) := by
  simp only [SortedMap.contains, SortedMap.find?_filter]
  cases set.find? key with
  | none => rfl
  | some content => cases kept : keep key () <;> simp [Option.filter, kept]

@[simp] theorem contains_inter (left right : KeySet) (key : String) :
    (left.inter right).contains key = (left.contains key && right.contains key) :=
  contains_filter left _ key

@[simp] theorem contains_diff (left right : KeySet) (key : String) :
    (left.diff right).contains key = (left.contains key && !right.contains key) :=
  contains_filter left _ key

theorem contains_erase (set : KeySet) (key other : String) :
    SortedMap.contains (SortedMap.erase set key) other =
      (decide (other ≠ key) && set.contains other) := by
  simp only [SortedMap.contains, SortedMap.find?_erase]
  by_cases same : other = key <;> simp [same]

end KeySet

end DocStore
