import DocStore.Transform.Basic

/-!
Contract: pipeline requests.

A request names a collection and lists the steps that its documents go through.
A request is refused when a grouping step uses a field whose first segment is
the name of the member list that grouping writes.

Owns: steps, requests and their validity.
-/

namespace DocStore

/-- The field that holds the members of a group. -/
def membersField : String := "group"

/-- The field that holds a count. -/
def countField : String := "count"

/-- How a step joins the documents of another collection. -/
structure JoinSpec where
  collection : String
  localField : String
  remoteField : String
  asField : String
deriving DecidableEq, Repr

/-- One step of a pipeline. -/
inductive Step where
  | filter (predicate : Predicate)
  | map (transforms : List Transform)
  | groupBy (field : String)
  | join (spec : JoinSpec)
  | count
  | distinct (field : Option String)
  | limit (count : Nat)
  | skip (count : Nat)
  | sort (field : String) (ascending : Bool)
deriving Repr

namespace Step

/-- The tags of steps. -/
inductive Tag where
  | filter
  | map
  | groupBy
  | join
  | count
  | distinct
  | limit
  | skip
  | sort
deriving DecidableEq, Repr

def Tag.all : List Tag := [filter, map, groupBy, join, count, distinct, limit, skip, sort]

/-- The name of a tag in requests. -/
def Tag.name : Tag → String
  | filter => "FILTER"
  | map => "MAP"
  | groupBy => "GROUP_BY"
  | join => "JOIN"
  | count => "COUNT"
  | distinct => "DISTINCT"
  | limit => "LIMIT"
  | skip => "SKIP"
  | sort => "SORT"

def tag : Step → Tag
  | filter _ => .filter
  | map _ => .map
  | groupBy _ => .groupBy
  | join _ => .join
  | count => .count
  | distinct _ => .distinct
  | limit _ => .limit
  | skip _ => .skip
  | sort _ _ => .sort

/-- The name of a step in requests. -/
def name (step : Step) : String := step.tag.name

end Step

/-- Steps for one collection. -/
structure Request where
  database : String
  collection : String
  steps : List Step
deriving Repr

namespace Request

/-- The grouping field of a step that would overwrite the member list. -/
def takenField? : Step → Option String
  | .groupBy field => if (Path.segments field).head? = some membersField then some field else none
  | _ => none

/-- Refuses the first step, counted from `position`, that groups by a taken field. -/
def checkSteps (position : Nat) : List Step → Except Error Unit
  | [] => .ok ()
  | step :: rest =>
      match takenField? step with
      | some field => .error (.groupFieldTaken position field)
      | none => checkSteps (position + 1) rest

/-- Refuses a request that groups by a taken field. -/
def check (request : Request) : Except Error Unit := checkSteps 1 request.steps

end Request

end DocStore
