import DocStore.Query.Pipeline
import DocStore.Log.Line

/-!
Contract: what evaluating a query writes to the log.

Every step is announced with the state of the stream it meets, every look-up of
a leaf with its answer, and every reading of a whole collection with its size.
The lines end where evaluation ends with an error.

Owns: the lines about filters, steps and requests.
Does not own: evaluation itself, which writes nothing.
-/

namespace DocStore

/-- The name of a comparison in the log. -/
def Comparison.logName : Comparison → String
  | equals => "Equals"
  | notEquals => "NotEquals"
  | greater => "GreaterThan"
  | greaterOrEqual => "GreaterThanEquals"
  | smaller => "SmallerThan"
  | smallerOrEqual => "SmallerThanEquals"
  | isIn => "In"
  | isNotIn => "NotIn"
  | contains => "Contains"

namespace Query

/-- The name of a collection in the log. -/
def placeName (database collection : String) : String := database ++ "." ++ collection

/-! ## Filters -/

/-- The line about the look-up of one leaf. -/
def leafLines (source : Source) (settings : Settings) (database collection : String)
    (leaf : FieldTest) : List LogLine :=
  if settings.usesIndexes then
    let place := placeName database collection ++ "." ++ leaf.field
    match source.indexLookup database collection leaf.field leaf.comparison leaf.literal with
    | .ok (some keys) =>
        [⟨.debug, .filter, "index hit on " ++ place ++ " (" ++ leaf.comparison.logName ++ "): " ++
          toString keys.size ++ " keys"⟩]
    | .ok none => [⟨.debug, .filter, "no index on " ++ place ++ ", scanning"⟩]
    | .error _ => []
  else []

mutual

/-- The lines about the leaves of a predicate, up to the first that cannot be looked up. -/
def lookupLines (source : Source) (settings : Settings) (database collection : String) :
    Predicate → List LogLine
  | .test leaf => leafLines source settings database collection leaf
  | .join _ operands => lookupLinesOfAll source settings database collection operands

def lookupLinesOfAll (source : Source) (settings : Settings) (database collection : String) :
    List Predicate → List LogLine
  | [] => []
  | operand :: rest =>
      lookupLines source settings database collection operand ++
        match Resolved.ofPredicate source settings database collection operand with
        | .ok _ => lookupLinesOfAll source settings database collection rest
        | .error _ => []

end

/-- The lines about filtering a stream. -/
def filterLines (source : Source) (settings : Settings) (database collection : String)
    (predicate : Predicate) : Stream → List LogLine
  | .unread => lookupLines source settings database collection predicate
  | .stored _ =>
      lookupLines source settings database collection predicate ++
        match Resolved.ofPredicate source settings database collection predicate with
        | .ok _ => [⟨.trace, .filter, "filtering stored rows"⟩]
        | .error _ => []
  | .derived _ => [⟨.trace, .filter, "filtering derived documents by predicate"⟩]

/-! ## Steps -/

/-- The line about reading a whole collection into a stream. -/
def readingLines (source : Source) (database collection : String) (stream : Stream) :
    List LogLine :=
  if stream.hasDocuments then []
  else
    match source.snapshot database collection with
    | .ok snapshot =>
        [⟨.debug, .pipeline, "seeding from " ++ placeName database collection ++ " (" ++
          toString snapshot.size ++ " documents)"⟩]
    | .error _ => []

/-- The line about a join whose documents and partners can be read. -/
def joinLines (source : Source) (database collection : String) (stream : Stream)
    (spec : JoinSpec) : List LogLine :=
  match broughtIn source database collection stream, source.snapshot database spec.collection with
  | .ok _, .ok remote =>
      [⟨.debug, .pipeline, "join " ++ placeName database spec.collection ++ " on " ++
        spec.remoteField ++ ": " ++
        toString (Stage.partnersOf spec.remoteField remote.values).size ++ " remote keys"⟩]
  | _, _ => []

/-- The line about a count that is answered without reading documents. -/
def countLines (source : Source) (database collection : String) (stream : Stream) :
    List LogLine :=
  if stream.hasDocuments then []
  else
    match source.count database collection with
    | .ok count =>
        [⟨.debug, .pipeline, "count of " ++ placeName database collection ++
          " from entry counter: " ++ toString count⟩]
    | .error _ => []

/-- The lines about one step. -/
def stepLines (source : Source) (settings : Settings) (database collection : String)
    (stream : Stream) : Step → List LogLine
  | .filter predicate => filterLines source settings database collection predicate stream
  | .join spec =>
      readingLines source database collection stream ++
        joinLines source database collection stream spec
  | .count => countLines source database collection stream
  | .map _ | .groupBy _ | .distinct _ | .limit _ | .skip _ | .sort _ _ =>
      readingLines source database collection stream

/-! ## Requests -/

/-- The line that announces a step, the first being number one. -/
def announcement (request : Request) (position : Nat) (stream : Stream) (step : Step) :
    LogLine :=
  ⟨.trace, .pipeline, "step " ++ toString position ++ "/" ++ toString request.steps.length ++
    " " ++ step.name ++ " on " ++ placeName request.database request.collection ++ " (" ++
    stream.stateName ++ ")"⟩

/-- The lines about the steps of a request from a position on. -/
def stepsLines (source : Source) (settings : Settings) (request : Request) (position : Nat)
    (stream : Stream) : List Step → List LogLine
  | [] => []
  | step :: rest =>
      announcement request position stream step ::
        (stepLines source settings request.database request.collection stream step ++
          match applyStep source settings request.database request.collection stream step with
          | .ok next => stepsLines source settings request (position + 1) next rest
          | .error _ => [])

/-- The lines about running a request. -/
def runLines (source : Source) (settings : Settings) (request : Request) : List LogLine :=
  match request.check with
  | .ok () => stepsLines source settings request 1 .unread request.steps
  | .error _ => []

end Query

end DocStore
