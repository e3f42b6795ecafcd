import Mathlib.Data.List.FinRange
import Mathlib.Data.List.Forall2
import DocStore.Proofs.Value.Lens
import DocStore.Stage.Grouping

/-!
Contract: grouping is a stable partition of the documents that hold the field.

The run over the documents keeps one bucket for each key, in the order in which
the keys come up, and a bucket holds every document with its key so far, in
their order. The places of these documents are therefore parted by their keys.
The two fields of a group do not touch each other, because the grouping field
does not begin with the name of the member list.

Owns: `Gathers`, `IsStablePartition`, `ReadsAsGroup`, `IsListedIn` and their laws for
`Stage.groupBy`.
-/

namespace DocStore.Stage

/-- The key under which a document is grouped, if it holds the field. -/
def bucketKeyOf? (field : String) (document : Document) : Option String :=
  (document.get? field).map bucketKey

/-! ## The run over the documents -/

/-- A bucket with one more document, if it is the one with a key. -/
def Bucket.grown (key : String) (document : Document) (bucket : Bucket) : Bucket :=
  if bucket.key = key then { bucket with members := bucket.members ++ [document] } else bucket

@[simp] theorem Bucket.key_grown (key : String) (document : Document) (bucket : Bucket) :
    (bucket.grown key document).key = bucket.key := by
  unfold grown
  split <;> rfl

@[simp] theorem Bucket.value_grown (key : String) (document : Document) (bucket : Bucket) :
    (bucket.grown key document).value = bucket.value := by
  unfold grown
  split <;> rfl

section

variable {key : String} {collected : List Bucket}

theorem addToBucket_of_absent (absent : ∀ bucket ∈ collected, bucket.key ≠ key) (value : Value)
    (document : Document) :
    addToBucket key value document collected = collected ++ [⟨key, value, [document]⟩] := by
  induction collected with
  | nil => rfl
  | cons bucket rest inductionHypothesis =>
      rw [addToBucket, if_neg (absent bucket List.mem_cons_self),
        inductionHypothesis fun other member => absent other (List.mem_cons_of_mem _ member)]
      rfl

/-- With one bucket for each key, a document goes into the bucket with its key. -/
theorem addToBucket_of_present
    (oneEach : collected.Pairwise fun earlier later => earlier.key ≠ later.key)
    (present : ∃ bucket ∈ collected, bucket.key = key) (value : Value) (document : Document) :
    addToBucket key value document collected = collected.map (Bucket.grown key document) := by
  induction collected with
  | nil =>
      obtain ⟨bucket, member, _⟩ := present
      cases member
  | cons bucket rest inductionHypothesis =>
      obtain ⟨others, restOneEach⟩ := List.pairwise_cons.1 oneEach
      rw [addToBucket, List.map_cons]
      by_cases here : bucket.key = key
      · have restUnchanged : rest.map (Bucket.grown key document) = rest.map id := by
          apply List.map_congr_left
          intro other member
          have different : other.key ≠ key := here ▸ (others other member).symm
          exact if_neg different
        rw [if_pos here, restUnchanged, List.map_id, Bucket.grown, if_pos here]
      · have inRest : ∃ bucket ∈ rest, bucket.key = key := by
          obtain ⟨other, member, isKey⟩ := present
          rcases List.mem_cons.1 member with rfl | member
          · exact absurd isKey here
          · exact ⟨other, member, isKey⟩
        rw [if_neg here, inductionHypothesis restOneEach inRest, Bucket.grown, if_neg here]

end

/-- What the buckets hold after some documents. -/
structure Gathers (field : String) (documents : List Document) (collected : List Bucket) :
    Prop where
  /-- Every key that has come up has a bucket. -/
  listed : ∀ document ∈ documents, ∀ key, bucketKeyOf? field document = some key →
    ∃ bucket ∈ collected, bucket.key = key
  /-- A bucket holds the documents with its key, in their order. -/
  members_eq : ∀ bucket ∈ collected,
    bucket.members = documents.filter fun document => bucketKeyOf? field document = some bucket.key
  /-- It is opened by a document that holds its value. -/
  opened : ∀ bucket ∈ collected, ∃ first,
    bucket.members.head? = some first ∧ first.get? field = some bucket.value
  /-- The buckets stand in the order in which their keys came up. -/
  inOrder : collected.Pairwise fun earlier later =>
    (documents.map (bucketKeyOf? field)).idxOf (some earlier.key) <
      (documents.map (bucketKeyOf? field)).idxOf (some later.key)

namespace Gathers

variable {field : String} {documents : List Document} {collected : List Bucket}

theorem empty (field : String) : Gathers field [] [] where
  listed := nofun
  members_eq := nofun
  opened := nofun
  inOrder := List.Pairwise.nil

theorem oneEach (gathers : Gathers field documents collected) :
    collected.Pairwise fun earlier later => earlier.key ≠ later.key := by
  apply gathers.inOrder.imp
  intro earlier later before same
  rw [same] at before
  exact Nat.lt_irrefl _ before

/-- The key of a bucket has come up. -/
theorem mem_keys (gathers : Gathers field documents collected) {bucket : Bucket}
    (member : bucket ∈ collected) : some bucket.key ∈ documents.map (bucketKeyOf? field) := by
  obtain ⟨first, isHead, _⟩ := gathers.opened bucket member
  have isMember := List.mem_of_head? isHead
  rw [gathers.members_eq bucket member, List.mem_filter, decide_eq_true_iff] at isMember
  rw [← isMember.2]
  exact List.mem_map_of_mem isMember.1

/-- The order of the buckets does not change with more documents. -/
theorem inOrder_append (gathers : Gathers field documents collected) (more : List Document) :
    collected.Pairwise fun earlier later =>
      ((documents ++ more).map (bucketKeyOf? field)).idxOf (some earlier.key) <
        ((documents ++ more).map (bucketKeyOf? field)).idxOf (some later.key) := by
  apply gathers.inOrder.imp_of_mem
  intro earlier later isEarlier isLater before
  rw [List.map_append, List.idxOf_append_of_mem (gathers.mem_keys isEarlier),
    List.idxOf_append_of_mem (gathers.mem_keys isLater)]
  exact before

/-- A document without the field changes nothing. -/
theorem skip (gathers : Gathers field documents collected) {document : Document}
    (absent : bucketKeyOf? field document = none) :
    Gathers field (documents ++ [document]) collected where
  listed := by
    intro other member key isKey
    rcases List.mem_append.1 member with before | isNew
    · exact gathers.listed other before key isKey
    · rw [List.mem_singleton.1 isNew, absent] at isKey
      cases isKey
  members_eq := by
    intro bucket member
    rw [gathers.members_eq bucket member, List.filter_append]
    simp [absent]
  opened := gathers.opened
  inOrder := gathers.inOrder_append [document]

/-- A document with a key that has come up joins the bucket of the key. -/
theorem join (gathers : Gathers field documents collected) {document : Document} {key : String}
    (isKey : bucketKeyOf? field document = some key)
    (present : ∃ bucket ∈ collected, bucket.key = key) :
    Gathers field (documents ++ [document]) (collected.map (Bucket.grown key document)) where
  listed := by
    intro other member otherKey isOther
    have known : ∃ bucket ∈ collected, bucket.key = otherKey := by
      rcases List.mem_append.1 member with before | isNew
      · exact gathers.listed other before otherKey isOther
      · rw [List.mem_singleton.1 isNew, isKey] at isOther
        cases isOther
        exact present
    obtain ⟨bucket, isBucket, hasKey⟩ := known
    exact ⟨bucket.grown key document, List.mem_map_of_mem isBucket, by simp [hasKey]⟩
  members_eq := by
    intro grown member
    obtain ⟨bucket, isBucket, rfl⟩ := List.mem_map.1 member
    rw [Bucket.key_grown, List.filter_append, ← gathers.members_eq bucket isBucket]
    by_cases here : bucket.key = key
    · simp [Bucket.grown, here, isKey]
    · simp [Bucket.grown, here, isKey, Ne.symm here]
  opened := by
    intro grown member
    obtain ⟨bucket, isBucket, rfl⟩ := List.mem_map.1 member
    obtain ⟨first, isHead, holds⟩ := gathers.opened bucket isBucket
    refine ⟨first, ?_, by rw [Bucket.value_grown, holds]⟩
    unfold Bucket.grown
    split
    · rw [List.head?_append, isHead, Option.some_or]
    · exact isHead
  inOrder := by
    rw [List.pairwise_map]
    simp only [Bucket.key_grown]
    exact gathers.inOrder_append [document]

/-- A document with a new key opens a bucket behind the others. -/
theorem openBucket (gathers : Gathers field documents collected) {document : Document}
    {value : Value} (holds : document.get? field = some value)
    (absent : ∀ bucket ∈ collected, bucket.key ≠ bucketKey value) :
    Gathers field (documents ++ [document])
      (collected ++ [⟨bucketKey value, value, [document]⟩]) where
  listed := by
    intro other member otherKey isOther
    rcases List.mem_append.1 member with before | isNew
    · obtain ⟨bucket, isBucket, hasKey⟩ := gathers.listed other before otherKey isOther
      exact ⟨bucket, List.mem_append_left _ isBucket, hasKey⟩
    · rw [List.mem_singleton.1 isNew, bucketKeyOf?, holds] at isOther
      cases isOther
      exact ⟨_, List.mem_append_right _ (List.mem_singleton_self _), rfl⟩
  members_eq := by
    intro bucket member
    rw [List.filter_append]
    rcases List.mem_append.1 member with before | isNew
    · rw [← gathers.members_eq bucket before]
      simp [bucketKeyOf?, holds, Ne.symm (absent bucket before)]
    · rw [List.mem_singleton.1 isNew]
      have noneBefore : ∀ other ∈ documents, bucketKeyOf? field other ≠ some (bucketKey value) := by
        intro other before isOther
        obtain ⟨bucket, isBucket, hasKey⟩ := gathers.listed other before _ isOther
        exact absent bucket isBucket hasKey
      have noMembers : documents.filter (fun other =>
          bucketKeyOf? field other = some (bucketKey value)) = [] := by
        simpa using noneBefore
      rw [noMembers]
      simp [bucketKeyOf?, holds]
  opened := by
    intro bucket member
    rcases List.mem_append.1 member with before | isNew
    · exact gathers.opened bucket before
    · rw [List.mem_singleton.1 isNew]
      exact ⟨document, rfl, holds⟩
  inOrder := by
    rw [List.pairwise_append]
    refine ⟨gathers.inOrder_append [document], List.pairwise_singleton .., ?_⟩
    intro bucket isBucket new isNew
    rw [List.mem_singleton.1 isNew]
    have notBefore : some (bucketKey value) ∉ documents.map (bucketKeyOf? field) := by
      intro member
      obtain ⟨other, before, isOther⟩ := List.mem_map.1 member
      obtain ⟨bucket, isBucket, hasKey⟩ := gathers.listed other before _ isOther
      exact absent bucket isBucket hasKey
    rw [List.map_append, List.idxOf_append_of_mem (gathers.mem_keys isBucket),
      List.idxOf_append_of_notMem notBefore]
    exact Nat.lt_add_right _ (List.idxOf_lt_length_of_mem (gathers.mem_keys isBucket))

/-- Every document is put where it belongs. -/
theorem step (gathers : Gathers field documents collected) (document : Document) :
    Gathers field (documents ++ [document]) (bucketStep field collected document) := by
  unfold bucketStep
  cases holds : document.get? field with
  | none => exact gathers.skip (by rw [bucketKeyOf?, holds, Option.map_none])
  | some value =>
      by_cases present : ∃ bucket ∈ collected, bucket.key = bucketKey value
      · simp only [addToBucket_of_present gathers.oneEach present]
        exact gathers.join (by rw [bucketKeyOf?, holds, Option.map_some]) present
      · have absent : ∀ bucket ∈ collected, bucket.key ≠ bucketKey value :=
          fun bucket member isKey => present ⟨bucket, member, isKey⟩
        simp only [addToBucket_of_absent absent]
        exact gathers.openBucket holds absent

/-- A run over more documents gathers them as well. -/
theorem foldl (more : List Document) :
    ∀ {documents collected}, Gathers field documents collected →
      Gathers field (documents ++ more) (more.foldl (bucketStep field) collected) := by
  induction more with
  | nil =>
      intro documents collected gathers
      rw [List.append_nil]
      exact gathers
  | cons document rest inductionHypothesis =>
      intro documents collected gathers
      have stepped := inductionHypothesis (gathers.step document)
      rw [List.append_assoc, List.singleton_append] at stepped
      exact stepped

end Gathers

theorem gathers_buckets (field : String) (documents : List Document) :
    Gathers field documents (buckets field documents) :=
  (Gathers.empty field).foldl documents

/-- Two documents are in one bucket exactly when the values they hold share a bucket key. -/
theorem exists_bucket_iff {field : String} {documents : List Document} {left right : Document}
    (isLeft : left ∈ documents) (isRight : right ∈ documents) {leftValue rightValue : Value}
    (leftHolds : left.get? field = some leftValue)
    (rightHolds : right.get? field = some rightValue) :
    (∃ bucket ∈ buckets field documents, left ∈ bucket.members ∧ right ∈ bucket.members) ↔
      bucketKey leftValue = bucketKey rightValue := by
  have gathers := gathers_buckets field documents
  have leftKey : bucketKeyOf? field left = some (bucketKey leftValue) := by
    rw [bucketKeyOf?, leftHolds, Option.map_some]
  have rightKey : bucketKeyOf? field right = some (bucketKey rightValue) := by
    rw [bucketKeyOf?, rightHolds, Option.map_some]
  have mem_iff : ∀ bucket ∈ buckets field documents, ∀ document ∈ documents,
      (document ∈ bucket.members ↔ bucketKeyOf? field document = some bucket.key) := by
    intro bucket isBucket document isDocument
    rw [gathers.members_eq bucket isBucket, List.mem_filter, decide_eq_true_iff]
    exact ⟨fun inside => inside.2, fun isKey => ⟨isDocument, isKey⟩⟩
  constructor
  · rintro ⟨bucket, isBucket, leftInside, rightInside⟩
    rw [mem_iff bucket isBucket left isLeft, leftKey] at leftInside
    rw [mem_iff bucket isBucket right isRight, rightKey] at rightInside
    rw [← Option.some_inj, leftInside, rightInside]
  · intro same
    obtain ⟨bucket, isBucket, hasKey⟩ := gathers.listed left isLeft _ leftKey
    refine ⟨bucket, isBucket, (mem_iff bucket isBucket left isLeft).2 ?_,
      (mem_iff bucket isBucket right isRight).2 ?_⟩
    · rw [leftKey, hasKey]
    · rw [rightKey, hasKey, same]

/-! ## Places -/

section Places

variable {count : Nat} {keyAt : Fin count → Option String}

/-- The places with a key. -/
def placesOf (keyAt : Fin count → Option String) (key : String) : List (Fin count) :=
  (List.finRange count).filter fun place => keyAt place = some key

theorem mem_placesOf_iff (place : Fin count) (key : String) :
    place ∈ placesOf keyAt key ↔ keyAt place = some key := by
  simp [placesOf]

/-- Places parted by their keys, in order: a stable partition of those that have one. -/
structure IsStablePartition (keyAt : Fin count → Option String)
    (groups : List (List (Fin count))) : Prop where
  /-- The places with a key are in some group, and no others. -/
  mem_iff : ∀ place, place ∈ groups.flatten ↔ (keyAt place).isSome = true
  /-- No place is in two groups or twice in one. -/
  nodup : groups.flatten.Nodup
  /-- Places share a group exactly when they share their key. -/
  together : ∀ group ∈ groups, ∀ left ∈ group, ∀ right,
    right ∈ group ↔ keyAt right = keyAt left
  /-- The members of a group stand in order. -/
  memberOrder : ∀ group ∈ groups, group.Pairwise (· < ·)
  /-- The groups stand in the order of their first members. -/
  groupOrder : groups.Pairwise fun earlier later =>
    ∃ first ∈ earlier, ∀ place ∈ later, first < place

/-- Places are parted by keys that are listed in the order in which they come up. -/
theorem isStablePartition_map_placesOf {keys : List String}
    (complete : ∀ place key, keyAt place = some key → key ∈ keys)
    (inOrder : keys.Pairwise fun earlier later =>
      ∃ first, keyAt first = some earlier ∧ ∀ place, keyAt place = some later → first < place) :
    IsStablePartition keyAt (keys.map (placesOf keyAt)) where
  mem_iff := by
    intro place
    rw [List.mem_flatten, Option.isSome_iff_exists]
    constructor
    · rintro ⟨group, isGroup, member⟩
      obtain ⟨key, _, rfl⟩ := List.mem_map.1 isGroup
      exact ⟨key, (mem_placesOf_iff place key).1 member⟩
    · rintro ⟨key, isKey⟩
      exact ⟨placesOf keyAt key, List.mem_map_of_mem (complete place key isKey),
        (mem_placesOf_iff place key).2 isKey⟩
  nodup := by
    rw [List.nodup_flatten]
    constructor
    · intro group isGroup
      obtain ⟨key, _, rfl⟩ := List.mem_map.1 isGroup
      exact (List.nodup_finRange count).filter _
    · rw [List.pairwise_map]
      apply inOrder.imp
      rintro earlier later ⟨first, isEarlier, before⟩ place inEarlier inLater
      rw [mem_placesOf_iff] at inEarlier inLater
      rw [inEarlier] at inLater
      cases inLater
      exact absurd (before first isEarlier) (lt_irrefl first)
  together := by
    intro group isGroup left isLeft right
    obtain ⟨key, _, rfl⟩ := List.mem_map.1 isGroup
    rw [mem_placesOf_iff] at isLeft
    rw [mem_placesOf_iff, isLeft]
  memberOrder := by
    intro group isGroup
    obtain ⟨key, _, rfl⟩ := List.mem_map.1 isGroup
    exact (List.pairwise_lt_finRange count).filter _
  groupOrder := by
    rw [List.pairwise_map]
    apply inOrder.imp
    rintro earlier later ⟨first, isEarlier, before⟩
    refine ⟨first, (mem_placesOf_iff first earlier).2 isEarlier, ?_⟩
    intro place inLater
    exact before place ((mem_placesOf_iff place later).1 inLater)

end Places

/-- The bucket key of the document at a place of a list. -/
def keyAtPlace (field : String) (documents : List Document) (place : Fin documents.length) :
    Option String := bucketKeyOf? field documents[place]

/-- A key that has come up is first found at a place before all others with a later key. -/
theorem exists_firstPlace {field : String} {documents : List Document} {earlier later : String}
    (comesUp : some earlier ∈ documents.map (bucketKeyOf? field))
    (before : (documents.map (bucketKeyOf? field)).idxOf (some earlier) <
      (documents.map (bucketKeyOf? field)).idxOf (some later)) :
    ∃ first, keyAtPlace field documents first = some earlier ∧
      ∀ place, keyAtPlace field documents place = some later → first < place := by
  have inside := List.idxOf_lt_length_of_mem comesUp
  have isEarlier := List.getElem_idxOf inside
  rw [List.getElem_map] at isEarlier
  rw [List.length_map] at inside
  refine ⟨⟨_, inside⟩, isEarlier, ?_⟩
  intro place isLater
  -- Before the first place with a key no place has it.
  have notBefore : ¬place.val < (documents.map (bucketKeyOf? field)).idxOf (some later) := by
    intro placeBefore
    have different := List.not_of_lt_findIdx placeBefore
    rw [List.getElem_map, beq_eq_false_iff_ne] at different
    exact different isLater
  exact Nat.lt_of_lt_of_le before (Nat.le_of_not_lt notBefore)

theorem Gathers.isStablePartition {field : String} {documents : List Document}
    {collected : List Bucket} (gathers : Gathers field documents collected) :
    IsStablePartition (keyAtPlace field documents)
      (collected.map fun bucket => placesOf (keyAtPlace field documents) bucket.key) := by
  have viaKeys : (collected.map fun bucket => placesOf (keyAtPlace field documents) bucket.key) =
      (collected.map Bucket.key).map (placesOf (keyAtPlace field documents)) := by
    rw [List.map_map]
    rfl
  rw [viaKeys]
  apply isStablePartition_map_placesOf
  · intro place key isKey
    obtain ⟨bucket, isBucket, hasKey⟩ :=
      gathers.listed documents[place] (List.getElem_mem _) key isKey
    exact List.mem_map.2 ⟨bucket, isBucket, hasKey⟩
  · rw [List.pairwise_map]
    apply gathers.inOrder.imp_of_mem
    intro earlier later isEarlier _ before
    exact exists_firstPlace (gathers.mem_keys isEarlier) before

/-! ## Groups -/

/-- A document reads as the group of the documents at some places: at the field it holds what the
first of them holds, and at the member list all of them. -/
def ReadsAsGroup (field : String) (documents : List Document)
    (group : List (Fin documents.length)) (output : Document) : Prop :=
  ∃ first rest, group = first :: rest ∧
    output.get? field = documents[first].get? field ∧
    output.get? membersField = some (.array (group.map fun place => documents[place].toValue))

/-- The documents with a key are those at the places with it. -/
theorem Gathers.members_eq_map {field : String} {documents : List Document}
    {collected : List Bucket} (gathers : Gathers field documents collected) {bucket : Bucket}
    (isBucket : bucket ∈ collected) :
    bucket.members =
      (placesOf (keyAtPlace field documents) bucket.key).map fun place => documents[place] := by
  have listed : documents = (List.finRange documents.length).map fun place => documents[place] :=
    (List.map_get_finRange documents).symm
  rw [gathers.members_eq bucket isBucket]
  conv => lhs; rw [listed]
  rw [List.filter_map]
  rfl

theorem get?_set_membersField (document : Document) (value : Value) :
    (document.set membersField value).get? membersField = some value := by
  apply Document.get?_set_self value (by decide)
  have alone : Path.segments membersField = [membersField] := by decide
  rw [alone, Document.toValue, Value.obstructs_cons_iff]
  rintro (⟨items, isArray, _⟩ | ⟨child, _, obstructed⟩)
  · cases isArray
  · exact Value.not_obstructs_nil child obstructed

/-- The member list of a group is read back. -/
theorem Bucket.get?_toDocument_membersField (field : String) (bucket : Bucket) :
    (bucket.toDocument field).get? membersField =
      some (.array (bucket.members.map Document.toValue)) :=
  get?_set_membersField _ _

/-- Whether the member list that is read from a group has a document in it. -/
def IsListedIn (document group : Document) : Prop :=
  ∃ items, group.get? membersField = some (.array items) ∧ document.toValue ∈ items

theorem isListedIn_toDocument_iff (field : String) (bucket : Bucket) (document : Document) :
    IsListedIn document (bucket.toDocument field) ↔ document ∈ bucket.members := by
  unfold IsListedIn
  rw [bucket.get?_toDocument_membersField]
  simp only [Option.some.injEq, Value.array.injEq, exists_eq_left', List.mem_map]
  constructor
  · rintro ⟨other, member, same⟩
    rw [← Document.toValue_inj same]
    exact member
  · exact fun member => ⟨document, member, rfl⟩

/-- Groups list together what their buckets hold together. -/
theorem exists_group_iff (field : String) (documents : List Document) (left right : Document) :
    (∃ group ∈ groupBy field documents, IsListedIn left group ∧ IsListedIn right group) ↔
      ∃ bucket ∈ buckets field documents, left ∈ bucket.members ∧ right ∈ bucket.members := by
  unfold groupBy
  constructor
  · rintro ⟨group, member, both⟩
    obtain ⟨bucket, isBucket, rfl⟩ := List.mem_map.1 member
    simp only [isListedIn_toDocument_iff] at both
    exact ⟨bucket, isBucket, both⟩
  · rintro ⟨bucket, isBucket, both⟩
    refine ⟨bucket.toDocument field, List.mem_map_of_mem isBucket, ?_⟩
    simpa only [isListedIn_toDocument_iff] using both

/-- The member list diverges from a path that does not begin with its name. -/
theorem diverge_membersField {field : String}
    (untaken : (Path.segments field).head? ≠ some membersField) :
    Path.diverge (Path.segments membersField) (Path.segments field) = true := by
  have alone : Path.segments membersField = [membersField] := by decide
  rw [alone]
  cases shape : Path.segments field with
  | nil => exact absurd shape (Path.segments_ne_nil field)
  | cons first rest =>
      have different : membersField ≠ first := by
        intro same
        rw [shape, same] at untaken
        exact untaken rfl
      rw [Path.diverge, if_neg different]
      rfl

/-- A bucket is read back from the document that stands for it. -/
theorem readsAsGroup_toDocument {field : String} {documents : List Document} {bucket : Bucket}
    (untaken : (Path.segments field).head? ≠ some membersField)
    {collected : List Bucket} (gathers : Gathers field documents collected)
    (isBucket : bucket ∈ collected) :
    ReadsAsGroup field documents (placesOf (keyAtPlace field documents) bucket.key)
      (bucket.toDocument field) := by
  obtain ⟨opener, isHead, holds⟩ := gathers.opened bucket isBucket
  rw [gathers.members_eq_map isBucket] at isHead
  cases places : placesOf (keyAtPlace field documents) bucket.key with
  | nil =>
      rw [places] at isHead
      cases isHead
  | cons first rest =>
      rw [places] at isHead
      cases isHead
      refine ⟨first, rest, rfl, ?_, ?_⟩
      · unfold Bucket.toDocument
        rw [Document.get?_set_of_diverge _ _ (diverge_membersField untaken), holds]
        exact Document.get?_set_self _ (Fields.isReadable_of_get? holds)
          (Value.not_obstructs_emptyObject _)
      · rw [Bucket.get?_toDocument_membersField, gathers.members_eq_map isBucket, places,
          List.map_map]
        rfl

/-- Grouping parts the documents that hold the field by their bucket keys, stably, and every
group is read back from the document that stands for it. -/
theorem groupBy_exact (documents : List Document) {field : String}
    (untaken : (Path.segments field).head? ≠ some membersField) :
    ∃ groups, IsStablePartition (keyAtPlace field documents) groups ∧
      List.Forall₂ (ReadsAsGroup field documents) groups (groupBy field documents) := by
  have gathers := gathers_buckets field documents
  refine ⟨_, gathers.isStablePartition, ?_⟩
  rw [groupBy, List.forall₂_map_left_iff, List.forall₂_map_right_iff, List.forall₂_same]
  exact fun bucket isBucket => readsAsGroup_toDocument untaken gathers isBucket

/-- A field inside lists becomes a field inside an object, and letters fold their case. -/
theorem groupBy_exact_listed :
    let documents : List Document :=
      [⟨[("a", .array [.string "x"])]⟩, ⟨[("a", .array [.null])]⟩, ⟨[("b", .null)]⟩,
        ⟨[("a", .array [.string "X"])]⟩]
    (Path.segments "a.0").head? ≠ some membersField ∧
      (∃ groups, IsStablePartition (keyAtPlace "a.0" documents) groups ∧
        List.Forall₂ (ReadsAsGroup "a.0" documents) groups (groupBy "a.0" documents)) ∧
      keyAtPlace "a.0" documents 0 = keyAtPlace "a.0" documents 3 := by
  intro documents
  exact ⟨by decide, groupBy_exact documents (by decide), by decide⟩

end DocStore.Stage
