import DocStore.Store.Source
import DocStore.Settings
import DocStore.Predicate.Basic

/-!
Contract: predicates with their index look-ups done.

Resolving a predicate asks the source once for every leaf. A leaf whose field
is indexed holds the keys that the index answers, any other leaf is scanned. A
resolved predicate can be evaluated as set algebra over a snapshot or document
by document.

Owns: `Resolved`, resolving, and the two ways to evaluate.
-/

namespace DocStore

/-- A predicate whose leaves have been looked up where an index allows it. -/
inductive Resolved where
  | indexed (leaf : FieldTest) (keys : KeySet)
  | scan (leaf : FieldTest)
  | join (connective : Connective) (operands : List Resolved)

namespace Resolved

/-- Looks up one leaf. -/
def ofLeaf (source : Source) (settings : Settings) (database collection : String)
    (leaf : FieldTest) : Except Error Resolved :=
  if settings.usesIndexes then
    match source.indexLookup database collection leaf.field leaf.comparison leaf.literal with
    | .ok (some keys) => .ok (indexed leaf keys)
    | .ok none => .ok (scan leaf)
    | .error error => .error error
  else .ok (scan leaf)

mutual

/-- Looks up the leaves of a predicate from left to right; the first error ends it. -/
def ofPredicate (source : Source) (settings : Settings) (database collection : String) :
    Predicate → Except Error Resolved
  | .test leaf => ofLeaf source settings database collection leaf
  | .join connective operands =>
      match ofPredicates source settings database collection operands with
      | .ok resolved => .ok (join connective resolved)
      | .error error => .error error

def ofPredicates (source : Source) (settings : Settings) (database collection : String) :
    List Predicate → Except Error (List Resolved)
  | [] => .ok []
  | operand :: rest =>
      match ofPredicate source settings database collection operand with
      | .error error => .error error
      | .ok resolved =>
          match ofPredicates source settings database collection rest with
          | .error error => .error error
          | .ok others => .ok (resolved :: others)

end

/-! ## What a resolved predicate depends on -/

mutual

/-- Whether the result depends on documents besides those that indexes answer. -/
def needsDocuments : Resolved → Bool
  | indexed _ _ => false
  | scan _ => true
  | join .nor _ | join .nand _ => true
  | join _ operands => anyNeedsDocuments operands

def anyNeedsDocuments : List Resolved → Bool
  | [] => false
  | operand :: rest => operand.needsDocuments || anyNeedsDocuments rest

end

/-! ## Set algebra -/

mutual

/-- The keys that are selected from a snapshot; negations are taken in `everything`. -/
def selected (snapshot : Snapshot) (everything : KeySet) : Resolved → KeySet
  | indexed _ keys => keys
  | scan leaf => (snapshot.filter fun _ document => leaf.accepts document).mapValues fun _ => ()
  | join connective operands =>
      connective.joinSets (selectedByEach snapshot everything operands) everything

def selectedByEach (snapshot : Snapshot) (everything : KeySet) : List Resolved → List KeySet
  | [] => []
  | operand :: rest =>
      operand.selected snapshot everything :: selectedByEach snapshot everything rest

end

/-! ## Document by document -/

mutual

/-- Whether a document is let through. An index answer is trusted for a document with a key;
one without is tested itself. -/
def accepts (document : Document) : Resolved → Bool
  | indexed leaf keys =>
      match document.key? with
      | some key => keys.contains key
      | none => leaf.accepts document
  | scan leaf => leaf.accepts document
  | join connective operands => connective.verdict (acceptsEach document operands)

def acceptsEach (document : Document) : List Resolved → List Bool
  | [] => []
  | operand :: rest => operand.accepts document :: acceptsEach document rest

end

end Resolved

/-- The keys of a snapshot. -/
def Snapshot.keySet (snapshot : Snapshot) : KeySet := snapshot.mapValues fun _ => ()

end DocStore
