import Mathlib.Data.List.Nodup
import DocStore.Proofs.Index.Lookup

/-!
Contract: what an index answers after any history of insertions and removals.

Live documents have keys, no two the same, and only a live document is taken off
the lists. Along such a history the index answers for the live documents, so a
look-up gives the keys of those that stand in the comparison. Walking a window
of the key order is a fault when the window is not well formed; no look-up walks
such a window, so the look-up with faults never fails and answers the same.

Owns: `Index.lookup?`, `Index.Maintained`, and the law of look-ups after a history.
-/

namespace DocStore

namespace Index

/-! ## Look-ups in which a walk can fail -/

/-- The entries in a window; a window that is not well formed cannot be walked. -/
def walk? (index : Index) (window : Window) : Option (List (IndexKey × KeySet)) :=
  if window.WellFormed then some (index.entriesIn window) else none

/-- `lookupNumber` with the fault of its walk. -/
def lookupNumber? (index : Index) (comparison : Comparison) (literal : Number) : Option KeySet :=
  match numberWindow? comparison literal with
  | some window => do
      let walked ← index.walk? window
      let numbers := walked.takeWhile fun entry => entry.1.isNumber
      some (collect (numbers.filter fun entry =>
        match entry.1 with
        | .number key => comparison = .equals || comparison.holdsOnNumbers literal key.number
        | _ => false))
  | none => some SortedMap.empty

/-- `lookupString` with the fault of its walk. -/
def lookupString? (index : Index) (comparison : Comparison) (literal : String) :
    Option KeySet := do
  let walked ← index.walk? ⟨.included (.string ""), .unbounded⟩
  let strings := walked.takeWhile fun entry => entry.1.isString
  some (collect (strings.filter fun entry =>
    match entry.1 with
    | .string text => comparison.holdsOnStrings literal text
    | _ => false))

/-- `lookupObject` with the fault of its walk. -/
def lookupObject? (index : Index) (comparison : Comparison) (literal : String) : Option KeySet :=
  match comparison with
  | .equals => some (index.exactly (.object literal))
  | .notEquals => do
      let walked ← index.walk? ⟨.included (.object ""), .unbounded⟩
      some (collect (walked.filter fun entry =>
        match entry.1 with
        | .object text => text != literal
        | _ => false))
  | _ => some SortedMap.empty

/-- `lookupSingle` with the fault of a walk. -/
def lookupSingle? (index : Index) (comparison : Comparison) : Value → Option KeySet
  | .number value => index.lookupNumber? comparison value
  | .string text => index.lookupString? comparison text
  | .object fields => index.lookupObject? comparison (Value.object fields).canonicalKey
  | literal => some (index.lookupSingle comparison literal)

/-- `lookup` with the fault of a walk. -/
def lookup? (index : Index) (comparison : Comparison) (literal : Value) : Option KeySet :=
  match literal with
  | .array members =>
      if comparison = .isIn then
        (members.filter Value.isScalar).foldlM (fun keys member => do
          let found ← index.lookupSingle? .equals member
          some (keys.union found)) SortedMap.empty
      else some SortedMap.empty
  | single => index.lookupSingle? comparison single

theorem walk?_of_wellFormed (index : Index) {window : Window} (wellFormed : window.WellFormed) :
    index.walk? window = some (index.entriesIn window) :=
  if_pos wellFormed

theorem wellFormed_of_unbounded (lower : Bound) : Window.WellFormed ⟨lower, .unbounded⟩ := by
  cases lower <;> trivial

/-- The windows of number literals are well formed, also at the least number and at NaN. -/
theorem wellFormed_numberWindow {comparison : Comparison} {literal : Number} {window : Window}
    (found : numberWindow? comparison literal = some window) : window.WellFormed := by
  have fromLeast : (compare leastNumber (.number (.ofNumber literal))).isLE = true :=
    isAbove_leastNumber (.ofNumber literal)
  unfold numberWindow? at found
  cases isNaN : literal.isNaN with
  | true =>
      cases comparison <;> simp [isNaN] at found
      rw [← found]
      trivial
  | false =>
      rw [isNaN, if_neg Bool.false_ne_true] at found
      cases comparison with
      | equals =>
          rw [← Option.some.inj found]
          show (compare (IndexKey.number (.ofNumber literal)) _).isLE = true
          rw [Std.ReflOrd.compare_self]
          rfl
      | notEquals | greater | greaterOrEqual =>
          rw [← Option.some.inj found]
          trivial
      | smaller | smallerOrEqual =>
          rw [← Option.some.inj found]
          exact fromLeast
      | isIn | isNotIn | contains => cases found

theorem lookupSingle?_eq_some (index : Index) (comparison : Comparison) (literal : Value) :
    index.lookupSingle? comparison literal = some (index.lookupSingle comparison literal) := by
  cases literal with
  | number value =>
      rw [lookupSingle?, lookupSingle, lookupNumber?, lookupNumber]
      cases found : numberWindow? comparison value with
      | none => rfl
      | some window =>
          simp only [index.walk?_of_wellFormed (wellFormed_numberWindow found)]
          rfl
  | string text =>
      rw [lookupSingle?, lookupString?, index.walk?_of_wellFormed (wellFormed_of_unbounded _)]
      rfl
  | object fields =>
      simp only [lookupSingle?, lookupObject?,
        index.walk?_of_wellFormed (wellFormed_of_unbounded _)]
      cases comparison <;> rfl
  | _ => rfl

/-- No look-up walks a window that is not well formed. -/
theorem lookup?_eq_some (index : Index) (comparison : Comparison) (literal : Value) :
    index.lookup? comparison literal = some (index.lookup comparison literal) := by
  cases literal with
  | array members =>
      rw [lookup?, lookup]
      split
      next =>
        simp only [lookupSingle?_eq_some]
        exact List.foldlM_pure ..
      next => rfl
  | _ => simp only [lookup?, lookup, lookupSingle?_eq_some]

/-! ## Histories -/

/-- Documents with keys, no two of them the same. -/
def DistinctKeys (documents : List Document) : Prop :=
  (∀ document ∈ documents, document.key?.isSome = true) ∧ (documents.map Document.key?).Nodup

instance (documents : List Document) : Decidable (DistinctKeys documents) := by
  unfold DistinctKeys
  infer_instance

/-- An index over a field and the live documents, after some insertions and removals. The live
documents have keys of their own, and only a live document is taken off the lists. -/
inductive Maintained (field : String) : Index → List Document → Prop where
  | empty : Maintained field (empty field) []
  | insert {index : Index} {live : List Document} {document : Document}
      (before : Maintained field index live) (distinct : DistinctKeys (document :: live)) :
      Maintained field (index.insert document) (document :: live)
  | remove {index : Index} {live : List Document} {document : Document}
      (before : Maintained field index live) (isLive : document ∈ live) :
      Maintained field (index.remove document)
        (live.filter fun other => decide (other.key? ≠ document.key?))

theorem DistinctKeys.filter {documents : List Document} (distinct : DistinctKeys documents)
    (keep : Document → Bool) : DistinctKeys (documents.filter keep) :=
  ⟨fun document member => distinct.1 document (List.mem_filter.1 member).1,
    (List.filter_sublist.map _).nodup distinct.2⟩

/-- A document among others with keys of their own is determined by its key. -/
theorem DistinctKeys.eq_of_key?_eq {documents : List Document}
    (distinct : DistinctKeys documents) {left right : Document} (isLeft : left ∈ documents)
    (isRight : right ∈ documents) (sameKey : left.key? = right.key?) : left = right :=
  List.inj_on_of_nodup_map distinct.2 isLeft isRight sameKey

section

variable {field : String} {index : Index} {live : List Document}

theorem Maintained.distinctKeys (maintained : Maintained field index live) :
    DistinctKeys live := by
  induction maintained with
  | empty => exact ⟨fun _ member => absurd member List.not_mem_nil, List.nodup_nil⟩
  | insert before distinct => exact distinct
  | remove before isLive inductionHypothesis => exact inductionHypothesis.filter _

theorem Maintained.field_eq (maintained : Maintained field index live) : index.field = field := by
  induction maintained with
  | empty => rfl
  | insert before distinct inductionHypothesis => rw [field_insert, inductionHypothesis]
  | remove before isLive inductionHypothesis => rw [field_remove, inductionHypothesis]

/-- After every history the index answers for the live documents. -/
theorem Maintained.answersFor (maintained : Maintained field index live) :
    index.AnswersFor fun document => document ∈ live := by
  induction maintained with
  | empty => exact (answersFor_empty field).congr fun document => by simp
  | insert before distinct inductionHypothesis =>
      exact (inductionHypothesis.insert _).congr fun other => List.mem_cons.symm
  | @remove index live document before isLive inductionHypothesis =>
      have alone : ∀ other ∈ live, other.key? = document.key? → other = document :=
        fun other member sameKey =>
          before.distinctKeys.eq_of_key?_eq member isLive sameKey
      refine (inductionHypothesis.remove document alone).congr ?_
      intro other
      rw [List.mem_filter, decide_eq_true_iff]
      refine and_congr_right fun member => ?_
      constructor
      · exact fun different sameKey => different (alone other member sameKey)
      · exact fun differentKey same => differentKey (by rw [same])

/-- After every history of insertions and removals a look-up walks well-formed windows only, and
it answers the keys of just those live documents whose field stands in the comparison. -/
theorem Maintained.lookup_exact (maintained : Maintained field index live)
    (comparison : Comparison) (literal : Value) :
    index.lookup? comparison literal = some (index.lookup comparison literal) ∧
      ∀ key, (index.lookup comparison literal).contains key = true ↔
        ∃ document ∈ live, document.key? = some key ∧
          comparison.test document field literal = true := by
  refine ⟨index.lookup?_eq_some comparison literal, ?_⟩
  intro key
  rw [maintained.answersFor.contains_lookup, maintained.field_eq]

end

private def weighed (key : String) (weight : Value) : Document :=
  ⟨[("_id", .string key), ("weight", weight)]⟩

/-- Of the weights that were inserted, NaN and negative zero are live. -/
private def scales : List Document :=
  [weighed "k2" (.number .nan), weighed "k1" (.number (.finite true ⟨0, Number.gridSize_pos⟩))]

theorem lookup_exact_signed_zero :
    ∃ index keys, Maintained "weight" index scales ∧
      index.lookup? .isIn (.array [.number .zero, .number .nan, .array []]) = some keys ∧
      keys.contains "k1" = true ∧ keys.contains "k2" = false := by
  let heaviest := weighed "k3" (.number (.infinite false))
  have inserted : Maintained "weight" _ [scales[0], heaviest, scales[1]] :=
    ((Maintained.empty.insert (by decide)).insert (by decide)).insert (by decide)
  have maintained : Maintained "weight" _ scales :=
    @Maintained.remove _ _ _ heaviest inserted (by simp)
  obtain ⟨noFault, answers⟩ :=
    maintained.lookup_exact .isIn (.array [.number .zero, .number .nan, .array []])
  refine ⟨_, _, maintained, noFault, ?_, ?_⟩
  · rw [answers "k1"]
    exact ⟨scales[1], by simp [scales], by decide, by decide⟩
  · rw [← Bool.not_eq_true, answers "k2"]
    decide

end Index

end DocStore
