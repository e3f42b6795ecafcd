import DocStore.Proofs.Transform.RoundTrip
import DocStore.Request.Json

/-!
Contract: requests are read back as they were written.

The data of a step is that of its fields and the tag, and a step without fields
is its tag alone. Normalising changes no field that grouping could take, so the
data of a valid request is read back to a valid request, which equals it if its
literals are finite. Literals that were read from data are.

Owns: equality, literals and normal form of steps and requests, and the round
trip of the whole request format.
-/

namespace DocStore

/-! ## Steps -/

namespace Step

theorem Tag.names : Json.Names Tag.all Tag.name where
  listed := by
    intro tag
    cases tag <;> decide
  distinct := by decide

/-- Equality of steps, with numeric equality inside literals. -/
def equals : Step → Step → Bool
  | filter left, filter right => left.equals right
  | map left, map right => left.isEqv right Transform.equals
  | groupBy left, groupBy right => left == right
  | join left, join right => left == right
  | count, count => true
  | distinct left, distinct right => left == right
  | limit left, limit right => left == right
  | skip left, skip right => left == right
  | sort leftField left, sort rightField right => leftField == rightField && left == right
  | _, _ => false

/-- The literals of the predicate or of the transforms of a step. -/
def literals : Step → List Value
  | filter predicate => predicate.literals
  | map transforms => transforms.flatMap Transform.literals
  | groupBy _ | join _ | count | distinct _ | limit _ | skip _ | sort _ _ => []

/-- Every literal of a step is finite. -/
def HasFiniteLiterals (step : Step) : Prop :=
  ∀ literal ∈ step.literals, literal.isFinite = true

def normalised : Step → Step
  | filter predicate => filter predicate.normalised
  | map transforms => map (transforms.map Transform.normalised)
  | other => other

/-- Lists are equal when their items are, one by one. -/
theorem isEqv_map {Item : Type} {equal : Item → Item → Bool} {normalise : Item → Item}
    {items : List Item} (same : ∀ item ∈ items, equal (normalise item) item = true) :
    (items.map normalise).isEqv items equal = true := by
  induction items with
  | nil => rfl
  | cons item rest inductionHypothesis =>
      rw [List.forall_mem_cons] at same
      rw [List.map_cons, List.isEqv, same.1, inductionHypothesis same.2]
      rfl

theorem equals_normalised {step : Step} (finite : step.HasFiniteLiterals) :
    step.normalised.equals step = true := by
  unfold HasFiniteLiterals at finite
  cases step with
  | filter predicate =>
      rw [literals] at finite
      exact Predicate.equals_normalised predicate finite
  | map transforms =>
      rw [literals] at finite
      rw [normalised, equals]
      apply isEqv_map
      intro transform member
      apply Transform.equals_normalised
      intro literal inside
      exact finite literal (List.mem_flatMap_of_mem member inside)
  | groupBy field => simp [normalised, equals]
  | join spec => simp [normalised, equals]
  | count => rfl
  | distinct field => simp [normalised, equals]
  | limit bound => simp [normalised, equals]
  | skip bound => simp [normalised, equals]
  | sort field ascending => simp [normalised, equals]

/-! ## Reading what was written -/

/-- A tag behind other members is taken off again. -/
theorem tagged?_taggedObject (tag : Tag) {members : List (String × Json)}
    (untagged : ∀ member ∈ members, member.1 ≠ "type") :
    (taggedObject tag members).tagged? = some (.string tag.name, .object members) := by
  have differs : ∀ member ∈ members, compare "type" member.1 ≠ .eq := by
    intro member inside same
    exact untagged member inside (Std.LawfulEqOrd.eq_of_compare same).symm
  have found : Entries.find? "type" (members ++ [("type", Json.string tag.name)]) =
      some (.string tag.name) := by
    induction members with
    | nil => simp [Entries.find?]
    | cons member rest inductionHypothesis =>
        rw [List.forall_mem_cons] at untagged differs
        rw [List.cons_append, Entries.find?, if_neg differs.1]
        exact inductionHypothesis untagged.2 differs.2
  have erased : Entries.erase "type" (members ++ [("type", Json.string tag.name)]) = members := by
    unfold Entries.erase
    rw [List.filter_append, List.filter_eq_self.2]
    · simp
    · intro member inside
      simpa using differs member inside
  rw [taggedObject, Json.tagged?, found, erased]
  rfl

theorem soleField?_object (name : String) (content : Json) :
    soleField? name (.object [(name, content)]) = some content := by
  simp [soleField?, Json.record?, Entries.find?]

/-- A step is read back in its normal form. -/
theorem ofJson?_toJson (step : Step) : ofJson? step.toJson = some step.normalised := by
  cases step with
  | filter predicate =>
      rw [toJson, ofJson?, tagged?_taggedObject .filter (by simp)]
      simp [Tag.names.tag?, soleField?_object, Predicate.ofJson?_toJson, normalised]
  | map transforms =>
      rw [toJson, ofJson?, tagged?_taggedObject .map (by simp)]
      simp [Tag.names.tag?, soleField?_object, Json.items,
        Json.mapM_map_of_reads (Transform.ofJson?_toJson true), normalised]
  | groupBy field =>
      rw [toJson, ofJson?, tagged?_taggedObject .groupBy (by simp)]
      simp [Tag.names.tag?, soleField?_object, Json.string?, normalised]
  | join spec =>
      rw [toJson, ofJson?, tagged?_taggedObject .join (by simp)]
      simp [Tag.names.tag?, Json.record?, Entries.find?, Json.string?, normalised]
  | count =>
      rw [toJson, ofJson?, tagged?_taggedObject .count (by simp)]
      simp [Tag.names.tag?, isBare, normalised]
  | distinct field =>
      cases field with
      | none =>
          rw [toJson, ofJson?, tagged?_taggedObject .distinct (by simp)]
          simp [Tag.names.tag?, Json.record?, Entries.find?, optionalField?, normalised]
      | some field =>
          rw [toJson, ofJson?, tagged?_taggedObject .distinct (by simp)]
          simp [Tag.names.tag?, Json.record?, Entries.find?, optionalField?, Json.string?,
            normalised]
  | limit bound =>
      rw [toJson, ofJson?, tagged?_taggedObject .limit (by simp)]
      simp [Tag.names.tag?, soleField?_object, Json.count?, normalised]
  | skip bound =>
      rw [toJson, ofJson?, tagged?_taggedObject .skip (by simp)]
      simp [Tag.names.tag?, soleField?_object, Json.count?, normalised]
  | sort field ascending =>
      rw [toJson, ofJson?, tagged?_taggedObject .sort (by simp)]
      simp [Tag.names.tag?, Json.record?, Entries.find?, Json.string?, Json.bool?, normalised]

/-! ## Literals that were read -/

theorem isFaithful_of_soleField? {name : String} {body content : Json}
    (faithful : body.isFaithful = true) (read : soleField? name body = some content) :
    content.isFaithful = true := by
  unfold soleField? at read
  simp only [Option.bind_eq_bind, Option.bind_eq_some_iff] at read
  rcases read with ⟨fields, isRecord, read⟩
  split at read
  next field =>
    apply Json.isFaithful_of_record? faithful isRecord
    rw [read]
    exact List.mem_singleton_self _
  next => cases read

theorem hasFiniteLiterals_of_literals_eq_nil {step : Step} (none : step.literals = []) :
    step.HasFiniteLiterals := by
  intro literal member
  rw [none] at member
  cases member

/-- Whatever is read from faithful data has finite literals. -/
theorem hasFiniteLiterals_of_ofJson? {json : Json} {step : Step}
    (faithful : json.isFaithful = true) (read : ofJson? json = some step) :
    step.HasFiniteLiterals := by
  simp only [ofJson?, Option.bind_eq_bind, Option.bind_eq_some_iff] at read
  rcases read with ⟨⟨tag, body⟩, isTagged, choice, -, read⟩
  have bodyFaithful := (Json.isFaithful_of_tagged? faithful isTagged).2
  -- Only filters and maps hold literals.
  cases choice with
  | filter =>
      simp only [Option.map_eq_some_iff, Option.bind_eq_some_iff] at read
      rcases read with ⟨predicate, ⟨content, isContent, isPredicate⟩, same⟩
      rw [← same]
      exact Predicate.hasFiniteLiterals_of_ofJson? content
        (isFaithful_of_soleField? bodyFaithful isContent) isPredicate
  | map =>
      simp only [Option.bind_eq_some_iff] at read
      rcases read with ⟨items, ⟨content, isContent, areItems⟩, transforms, areTransforms, same⟩
      have itemsFaithful := Json.isFaithful_of_items
        (isFaithful_of_soleField? bodyFaithful isContent) areItems
      have finite := Json.forall_of_mapM
        (fun _ _ => Transform.hasFiniteLiterals_of_ofJson?) itemsFaithful areTransforms
      rw [← Option.some.inj same]
      intro literal member
      rcases List.mem_flatMap.1 member with ⟨transform, inTransforms, inTransform⟩
      exact finite transform inTransforms literal inTransform
  | groupBy =>
      rcases Option.map_eq_some_iff.1 read with ⟨field, -, same⟩
      exact hasFiniteLiterals_of_literals_eq_nil (by rw [← same, literals])
  | join =>
      apply hasFiniteLiterals_of_literals_eq_nil
      simp only [Option.bind_eq_some_iff] at read
      rcases read with ⟨fields, -, read⟩
      split at read
      next =>
        simp only [Option.bind_eq_some_iff] at read
        rcases read with ⟨_, -, _, -, _, -, _, -, same⟩
        rw [← Option.some.inj same, literals]
      next => cases read
  | count =>
      apply hasFiniteLiterals_of_literals_eq_nil
      dsimp only at read
      split at read
      next => rw [← Option.some.inj read, literals]
      next => cases read
  | distinct =>
      apply hasFiniteLiterals_of_literals_eq_nil
      simp only [Option.bind_eq_some_iff] at read
      rcases read with ⟨fields, -, read⟩
      split at read
      next =>
        simp only [Option.bind_eq_some_iff] at read
        rcases read with ⟨_, -, same⟩
        rw [← Option.some.inj same, literals]
      next => cases read
  | limit =>
      rcases Option.map_eq_some_iff.1 read with ⟨bound, -, same⟩
      exact hasFiniteLiterals_of_literals_eq_nil (by rw [← same, literals])
  | skip =>
      rcases Option.map_eq_some_iff.1 read with ⟨bound, -, same⟩
      exact hasFiniteLiterals_of_literals_eq_nil (by rw [← same, literals])
  | sort =>
      apply hasFiniteLiterals_of_literals_eq_nil
      simp only [Option.bind_eq_some_iff] at read
      rcases read with ⟨fields, -, read⟩
      split at read
      next field ascending =>
        rw [Option.bind_eq_some_iff] at read
        rcases read with ⟨_, -, read⟩
        cases ascending with
        | none => rw [← Option.some.inj read, literals]
        | some json =>
            rcases Option.bind_eq_some_iff.1 read with ⟨_, -, same⟩
            rw [← Option.some.inj same, literals]
      next => cases read

end Step

/-! ## Requests -/

namespace Request

/-- Equality of requests, with numeric equality inside literals. -/
def equals (left right : Request) : Bool :=
  left.database == right.database && left.collection == right.collection &&
    left.steps.isEqv right.steps Step.equals

/-- Every literal of a request is finite. -/
def HasFiniteLiterals (request : Request) : Prop :=
  ∀ step ∈ request.steps, step.HasFiniteLiterals

def normalised (request : Request) : Request :=
  { request with steps := request.steps.map Step.normalised }

theorem equals_normalised {request : Request} (finite : request.HasFiniteLiterals) :
    request.normalised.equals request = true := by
  unfold equals normalised
  simp only [beq_self_eq_true, Bool.true_and]
  exact Step.isEqv_map fun step member => Step.equals_normalised (finite step member)

theorem checkSteps_normalised (position : Nat) (steps : List Step) :
    checkSteps position (steps.map Step.normalised) = checkSteps position steps := by
  induction steps generalizing position with
  | nil => rfl
  | cons step rest inductionHypothesis =>
      have sameTaken : takenField? step.normalised = takenField? step := by
        cases step <;> rfl
      rw [List.map_cons, checkSteps, checkSteps, sameTaken, inductionHypothesis]

/-- A request is read back in its normal form, valid or not. -/
theorem ofJson?_toJson (request : Request) :
    ofJson? request.toJson = some request.normalised := by
  have fields : request.toJson.record? ["database", "collection", "steps"] =
      some [some (.string request.database), some (.string request.collection),
        some (.array (request.steps.map Step.toJson))] := by
    simp [toJson, Json.record?, Entries.find?]
  unfold ofJson?
  rw [fields]
  simp only [Option.bind_eq_bind, Option.bind_some, Json.string?, Json.items,
    Json.mapM_map_of_reads Step.ofJson?_toJson]
  rfl

/-- A valid request is read back to a valid one. -/
theorem decode_toJson_of_check {request : Request} (valid : request.check = .ok ()) :
    decode request.toJson = .ok request.normalised := by
  have again : request.normalised.check = .ok () := by
    rw [← valid]
    exact checkSteps_normalised 1 request.steps
  unfold decode
  rw [ofJson?_toJson]
  dsimp only
  rw [again]

theorem hasFiniteLiterals_of_ofJson? {json : Json} {request : Request}
    (faithful : json.isFaithful = true) (read : ofJson? json = some request) :
    request.HasFiniteLiterals := by
  simp only [ofJson?, Option.bind_eq_bind, Option.bind_eq_some_iff] at read
  rcases read with ⟨fields, isRecord, read⟩
  have fieldsFaithful := Json.isFaithful_of_record? faithful isRecord
  split at read
  next database collection steps =>
    simp only [Option.bind_eq_some_iff] at read
    rcases read with ⟨_, -, _, -, read⟩
    cases steps with
    | none =>
        rw [← Option.some.inj read]
        exact fun step member => absurd member List.not_mem_nil
    | some data =>
        simp only [Option.bind_eq_some_iff] at read
        rcases read with ⟨found, ⟨items, areItems, areSteps⟩, same⟩
        rw [← Option.some.inj same]
        have itemsFaithful := Json.isFaithful_of_items (fieldsFaithful data (by simp)) areItems
        exact Json.forall_of_mapM (fun _ _ => Step.hasFiniteLiterals_of_ofJson?) itemsFaithful
          areSteps
  next => cases read

theorem decode_eq_ok_iff (json : Json) (request : Request) :
    decode json = .ok request ↔ ofJson? json = some request ∧ request.check = .ok () := by
  unfold decode
  cases ofJson? json with
  | none => simp
  | some found =>
      dsimp only
      cases valid : found.check with
      | ok _ =>
          rw [Except.ok.injEq, Option.some.injEq]
          refine ⟨fun same => ⟨same, ?_⟩, And.left⟩
          rw [← same, valid]
      | error fault =>
          refine iff_of_false (fun same => nomatch same) ?_
          rintro ⟨same, isValid⟩
          rw [Option.some.injEq] at same
          rw [same, isValid] at valid
          cases valid

/-- Reading undoes writing over the whole request format, for finite literals and so for all that was
read from data itself; and no leaf is read back as a node or the reverse. -/
theorem decode_toJson :
    (∀ predicate : Predicate, predicate.HasFiniteLiterals →
      ∃ again, Predicate.decode predicate.toJson = .ok again ∧ again.equals predicate = true) ∧
    (∀ request : Request, request.check = .ok () → request.HasFiniteLiterals →
      ∃ again, decode request.toJson = .ok again ∧ again.equals request = true) ∧
    (∀ (json : Json) (predicate : Predicate), json.isFaithful = true →
      Predicate.decode json = .ok predicate →
        ∃ again, Predicate.decode predicate.toJson = .ok again ∧
          again.equals predicate = true) ∧
    (∀ (json : Json) (request : Request), json.isFaithful = true → decode json = .ok request →
      ∃ again, decode request.toJson = .ok again ∧ again.equals request = true) ∧
    ∀ predicate : Predicate, ∃ again, Predicate.decode predicate.toJson = .ok again ∧
      again.isShapedLike predicate = true := by
  have predicates : ∀ predicate : Predicate, predicate.HasFiniteLiterals →
      ∃ again, Predicate.decode predicate.toJson = .ok again ∧ again.equals predicate = true :=
    fun predicate finite => ⟨_, Predicate.decode_toJson_eq predicate,
      Predicate.equals_normalised predicate finite⟩
  have requests : ∀ request : Request, request.check = .ok () → request.HasFiniteLiterals →
      ∃ again, decode request.toJson = .ok again ∧ again.equals request = true :=
    fun request valid finite => ⟨_, decode_toJson_of_check valid, equals_normalised finite⟩
  refine ⟨predicates, requests, ?_, ?_, ?_⟩
  · intro json predicate faithful read
    rw [Predicate.decode_eq_ok_iff] at read
    exact predicates predicate (Predicate.hasFiniteLiterals_of_ofJson? json faithful read)
  · intro json request faithful read
    rw [decode_eq_ok_iff] at read
    exact requests request read.2 (hasFiniteLiterals_of_ofJson? faithful read.1)
  · intro predicate
    exact ⟨_, Predicate.decode_toJson_eq predicate, Predicate.isShapedLike_normalised predicate⟩

private def negativeZero : Value := .number (.finite true ⟨0, Number.gridSize_pos⟩)

private def zeroOrNothing : Predicate :=
  .join .nor [.test ⟨"n", .isIn, .array [negativeZero, .null]⟩, .join .and []]

private def guardedSteps : Request :=
  ⟨"db", "c",
    [.filter zeroOrNothing,
      .map
        [.addField "sum" (some zeroOrNothing) (.array (.fold .sum) [negativeZero, .string "n"]),
          .removeField "n" none],
      .distinct none, .distinct (some "sum"), .sort "sum" false]⟩

/-- Steps with and without guards and fields, and literals with a negative zero. -/
theorem decode_toJson_guarded :
    (∃ again, Predicate.decode zeroOrNothing.toJson = .ok again ∧
      again.equals zeroOrNothing = true) ∧
    (∃ again, decode guardedSteps.toJson = .ok again ∧ again.equals guardedSteps = true) ∧
    (∃ read again, Predicate.decode zeroOrNothing.toJson = .ok read ∧
      Predicate.decode read.toJson = .ok again ∧ again.equals read = true) ∧
    ∃ read again, decode guardedSteps.toJson = .ok read ∧
      decode read.toJson = .ok again ∧ again.equals read = true := by
  rcases decode_toJson with ⟨predicates, requests, readPredicates, readRequests, -⟩
  have finitePredicate : zeroOrNothing.HasFiniteLiterals := by
    unfold Predicate.HasFiniteLiterals
    decide
  have valid : guardedSteps.check = .ok () := rfl
  have finiteRequest : guardedSteps.HasFiniteLiterals := by
    unfold HasFiniteLiterals Step.HasFiniteLiterals
    decide
  have isPredicate := Predicate.decode_toJson_eq zeroOrNothing
  have isRequest := decode_toJson_of_check valid
  rcases readPredicates zeroOrNothing.toJson _ (by decide +kernel) isPredicate with
    ⟨predicate, predicateAgain⟩
  rcases readRequests guardedSteps.toJson _ (by decide +kernel) isRequest with
    ⟨request, requestAgain⟩
  exact ⟨predicates _ finitePredicate, requests _ valid finiteRequest,
    ⟨_, predicate, isPredicate, predicateAgain⟩, ⟨_, request, isRequest, requestAgain⟩⟩

end Request

end DocStore
