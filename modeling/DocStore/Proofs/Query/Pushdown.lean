import DocStore.Proofs.Query.Pipeline
import DocStore.Proofs.Stage.Sorting
import DocStore.Proofs.Value.Frame

/-!
Contract: a filter can be moved before a step that it does not look behind.

A predicate looks at the fields of its leaves and nowhere else. Added fields,
removed top-level fields and attached lists at paths that diverge from all of
these leave its verdict on every document alone, so the same documents remain
whether they are told apart before the change or after it. A sort leaves the
documents themselves alone, and it is stable.

Owns: `Predicate.fields`, `Step.LetsPass`, and the exchange of a filter with the
step behind it.
-/

namespace DocStore

/-! ## What a predicate looks at -/

namespace Predicate

mutual

/-- The fields that the leaves of a predicate compare. -/
def fields : Predicate → List String
  | test leaf => [leaf.field]
  | join _ operands => fieldsOfAll operands

/-- The fields that the leaves of several predicates compare. -/
def fieldsOfAll : List Predicate → List String
  | [] => []
  | operand :: rest => operand.fields ++ fieldsOfAll rest

end

variable {left right : Document}

mutual

/-- Documents that agree on every field of a predicate get the same verdict. -/
theorem accepts_congr : ∀ predicate : Predicate,
    (∀ field ∈ predicate.fields, left.get? field = right.get? field) →
      predicate.accepts left = predicate.accepts right
  | test leaf, agree => by
      have sameField : left.get? leaf.field = right.get? leaf.field :=
        agree leaf.field (List.mem_singleton_self _)
      simp only [accepts, FieldTest.accepts, Comparison.test, sameField]
  | join connective operands, agree => by
      rw [accepts, accepts, verdicts_congr operands agree]

theorem verdicts_congr : ∀ operands : List Predicate,
    (∀ field ∈ fieldsOfAll operands, left.get? field = right.get? field) →
      verdicts left operands = verdicts right operands
  | [], _ => rfl
  | operand :: rest, agree => by
      have first := accepts_congr operand fun field member =>
        agree field (List.mem_append_left _ member)
      have others := verdicts_congr rest fun field member =>
        agree field (List.mem_append_right _ member)
      rw [verdicts, verdicts, first, others]

end

/-- A path diverges from every field that a predicate looks at. -/
def IsBlindTo (predicate : Predicate) (path : String) : Prop :=
  ∀ field ∈ predicate.fields,
    Path.diverge (Path.segments path) (Path.segments field) = true

instance (predicate : Predicate) (path : String) : Decidable (predicate.IsBlindTo path) := by
  unfold IsBlindTo
  infer_instance

theorem accepts_set {predicate : Predicate} {path : String} (blind : predicate.IsBlindTo path)
    (document : Document) (new : Value) :
    predicate.accepts (document.set path new) = predicate.accepts document := by
  apply accepts_congr
  intro field member
  exact document.get?_set_of_diverge new (blind field member)

theorem accepts_remove {predicate : Predicate} {name : String}
    (topLevel : Path.segments name = [name]) (blind : predicate.IsBlindTo name)
    (document : Document) :
    predicate.accepts (document.remove name).2 = predicate.accepts document := by
  apply accepts_congr
  intro field member
  exact document.get?_remove_of_diverge topLevel (blind field member)

end Predicate

/-! ## Steps that a predicate does not look behind -/

/-- A transform that adds a field or removes a top-level one, where a predicate does not look. -/
def Transform.LetsPass (predicate : Predicate) : Transform → Prop
  | .addField path _ _ => predicate.IsBlindTo path
  | .removeField name _ => Path.segments name = [name] ∧ predicate.IsBlindTo name

instance (predicate : Predicate) (transform : Transform) :
    Decidable (transform.LetsPass predicate) := by
  unfold Transform.LetsPass
  split <;> infer_instance

/-- A step whose changes a predicate does not see. -/
def Step.LetsPass (predicate : Predicate) : Step → Prop
  | .map transforms => ∀ transform ∈ transforms, transform.LetsPass predicate
  | .join spec => predicate.IsBlindTo spec.asField
  | .sort _ _ => True
  | _ => False

instance (predicate : Predicate) (step : Step) : Decidable (step.LetsPass predicate) := by
  unfold Step.LetsPass
  split <;> infer_instance

theorem Transform.accepts_apply {predicate : Predicate} {transform : Transform}
    (letsPass : transform.LetsPass predicate) (settings : Settings) (document : Document) :
    predicate.accepts (transform.apply settings document) = predicate.accepts document := by
  unfold Transform.apply
  split
  · cases transform with
    | addField path guard computation => exact Predicate.accepts_set letsPass document _
    | removeField name guard => exact Predicate.accepts_remove letsPass.1 letsPass.2 document
  · rfl

theorem Transform.accepts_applyAll {predicate : Predicate} {transforms : List Transform}
    (letPass : ∀ transform ∈ transforms, transform.LetsPass predicate) (settings : Settings)
    (document : Document) :
    predicate.accepts (applyAll settings transforms document) = predicate.accepts document := by
  induction transforms generalizing document with
  | nil => rfl
  | cons first rest inductionHypothesis =>
      have behind := inductionHypothesis
        (fun transform member => letPass transform (List.mem_cons_of_mem _ member))
        (first.apply settings document)
      have before := accepts_apply (letPass first (List.mem_cons_self ..)) settings document
      exact behind.trans before

theorem Stage.accepts_attached {predicate : Predicate} {spec : JoinSpec}
    (blind : predicate.IsBlindTo spec.asField) (remote : List Document) (document : Document) :
    predicate.accepts (attached spec remote document) = predicate.accepts document := by
  unfold attached
  split
  · rfl
  · simp only []
    split
    · rfl
    · exact Predicate.accepts_set blind document _

/-- Documents that a change leaves as acceptable as they were are told apart before or after. -/
theorem filter_map_of_accepts {predicate : Predicate} {change : Document → Document}
    (unseen : ∀ document, predicate.accepts (change document) = predicate.accepts document)
    (documents : List Document) :
    (documents.map change).filter (fun document => predicate.accepts document) =
      (documents.filter fun document => predicate.accepts document).map change := by
  rw [List.filter_map]
  congr 1
  apply List.filter_congr
  intro document _
  exact unseen document

/-! ## The exchange -/

namespace Step

variable {store : Store} {settings : Settings} {database : String}

theorem allOnList_append (before after : List Step) (documents : List Document) :
    allOnList store settings database documents (before ++ after) = (do
      let between ← allOnList store settings database documents before
      allOnList store settings database between after) := by
  induction before generalizing documents with
  | nil => rfl
  | cons step rest inductionHypothesis =>
      rw [List.cons_append, allOnList, allOnList]
      cases step.onList store settings database documents with
      | error error => rfl
      | ok next => exact inductionHypothesis next

/-- On plain lists a filter and a step that lets it pass can change places. -/
theorem onList_filter {predicate : Predicate} {step : Step} (letsPass : step.LetsPass predicate)
    (documents : List Document) :
    step.onList store settings database
        (documents.filter fun document => predicate.accepts document) = (do
      let changed ← step.onList store settings database documents
      .ok (changed.filter fun document => predicate.accepts document)) := by
  cases step with
  | map transforms =>
      have unseen := Transform.accepts_applyAll letsPass settings
      exact congrArg Except.ok (filter_map_of_accepts unseen documents).symm
  | join spec =>
      rw [onList, onList]
      cases store.collection database spec.collection with
      | error error => rfl
      | ok remote =>
          have unseen := Stage.accepts_attached letsPass remote.documents.values
          exact congrArg Except.ok (filter_map_of_accepts unseen documents).symm
  | sort field ascending =>
      exact congrArg Except.ok (Stage.filter_sort field ascending _ documents).symm
  | filter | groupBy | count | distinct | limit | skip => exact letsPass.elim

theorem allOnList_exchange {predicate : Predicate} {step : Step}
    (letsPass : step.LetsPass predicate) (before after : List Step) (documents : List Document) :
    allOnList store settings database documents (before ++ .filter predicate :: step :: after) =
      allOnList store settings database documents (before ++ step :: .filter predicate :: after) := by
  rw [allOnList_append, allOnList_append]
  congr 1
  funext between
  show (do
      let next ← step.onList store settings database
        (between.filter fun document => predicate.accepts document)
      allOnList store settings database next after) = (do
      let next ← step.onList store settings database between
      allOnList store settings database
        (next.filter fun document => predicate.accepts document) after)
  rw [onList_filter letsPass]
  cases step.onList store settings database between <;> rfl

end Step

/-- Neither of two steps that never group decides whether a request is refused. -/
theorem Request.checkSteps_exchange {first second : Step} (firstFree : takenField? first = none)
    (secondFree : takenField? second = none) (before after : List Step) (position : Nat) :
    checkSteps position (before ++ first :: second :: after) =
      checkSteps position (before ++ second :: first :: after) := by
  induction before generalizing position with
  | nil => simp only [List.nil_append, checkSteps, firstFree, secondFree]
  | cons step rest inductionHypothesis =>
      rw [List.cons_append, List.cons_append, checkSteps, checkSteps,
        inductionHypothesis (position + 1)]

namespace Query

/-- Runs agree when their requests are refused alike and their steps read plainly agree. -/
theorem run_congr {store : Store} (reachable : store.Reachable) (settings : Settings)
    {database collection : String} {left right : List Step} (leftNonempty : left ≠ [])
    (rightNonempty : right ≠ [])
    (refusedAlike : Request.checkSteps 1 left = Request.checkSteps 1 right)
    (readAlike : ∀ documents, Step.allOnList store settings database documents left =
      Step.allOnList store settings database documents right) :
    run store.source settings ⟨database, collection, left⟩ =
      run store.source settings ⟨database, collection, right⟩ := by
  unfold run Request.check
  rw [refusedAlike]
  congr 1
  funext _
  cases found : store.collection database collection with
  | error error =>
      have fails : ∀ steps : List Step, steps ≠ [] →
          applySteps store.source settings database collection .unread steps = .error error := by
        intro steps nonempty
        cases steps with
        | nil => exact absurd rfl nonempty
        | cons step rest => rw [applySteps, applyStep_unread_of_missing found]; rfl
      rw [fails left leftNonempty, fails right rightNonempty]
  | ok content =>
      have sound := reachable.sound
      have leftRead := documents_applySteps sound found settings left .unread (.inr leftNonempty)
      have rightRead := documents_applySteps sound found settings right .unread (.inr rightNonempty)
      have same := (leftRead.trans (readAlike _)).trans rightRead.symm
      have listed : ∀ outcome : Except Error Stream,
          (do let stream ← outcome; .ok stream.documents) = outcome.map Stream.documents := by
        intro outcome
        cases outcome <;> rfl
      rw [listed, listed]
      exact same

/-- A filter and the step behind it can change places anywhere in a pipeline, errors included,
when the step adds fields, removes top-level fields or attaches a list where the predicate does not
look, or when it sorts. -/
theorem run_exchange_filter {store : Store} (reachable : store.Reachable) (settings : Settings)
    (database collection : String) (before after : List Step) {predicate : Predicate} {step : Step}
    (letsPass : step.LetsPass predicate) :
    run store.source settings
        ⟨database, collection, before ++ .filter predicate :: step :: after⟩ =
      run store.source settings
        ⟨database, collection, before ++ step :: .filter predicate :: after⟩ := by
  have free : Request.takenField? step = none := by
    cases step with
    | groupBy => exact letsPass.elim
    | _ => rfl
  apply run_congr reachable settings
  · simp
  · simp
  · exact Request.checkSteps_exchange rfl free before after 1
  · exact Step.allOnList_exchange letsPass before after

private def shelved : Store :=
  [.insert "d" "c" "k1" { fields := [("pages", .number (.ofNat 120)),
      ("shelf", .array [.object [("label", .string "a")], .object [("label", .string "b")]])] },
    .createIndex "d" "c" "pages",
    .insert "d" "c" "k2" { fields := [("extra", .bool true), ("note", .null),
      ("pages", .number (.ofNat 300))] },
    .insert "d" "c" "k3" { fields := [("pages", .number (.ofNat 300)),
      ("shelf", .array [.object [("label", .string "A")], .null])] }].foldl Store.after Store.empty

/-- Long books and books on the shelf `a`, but not both. -/
private def longOrOnShelf : Predicate :=
  .join .xor [.test ⟨"pages", .greater, .number (.ofNat 200)⟩,
    .join .or [.test ⟨"shelf.0.label", .equals, .string "a"⟩]]

/-- Writes beside the label that the predicate reads, and into a scalar. -/
private def relabelled : Step :=
  .map [.addField "shelf.1.label" none (.array .concat [.string "-new"]),
    .addField "extra.deep" (some longOrOnShelf) (.single .size "shelf"), .removeField "note" none]

theorem run_exchange_filter_relabelled :
    shelved.Reachable ∧ relabelled.LetsPass longOrOnShelf ∧
      (run shelved.source ⟨true, '-'⟩
          ⟨"d", "c", [.skip 0] ++ relabelled :: .filter longOrOnShelf :: [.limit 9]⟩).toOption.map
        (fun found => found.map fun document =>
          (document.key?, (document.get? "shelf.1.label").isSome,
            (document.get? "extra.deep").isSome)) =
        some [(some "k1", true, true), (some "k2", true, true)] := by
  have reachable : shelved.Reachable := Store.Reachable.empty.afterAll _
  have letsPass : relabelled.LetsPass longOrOnShelf := by decide +kernel
  refine ⟨reachable, letsPass, ?_⟩
  rw [← run_exchange_filter reachable ⟨true, '-'⟩ "d" "c" [.skip 0] [.limit 9] letsPass]
  decide +kernel

end Query

end DocStore
