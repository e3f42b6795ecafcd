import DocStore.Comparison
import DocStore.Connective

/-!
Contract: predicates on documents.

A predicate is a tree whose leaves compare one field with a literal and whose
inner nodes join predicates by a connective.

Owns: the tree and its meaning on one document.
Does not own: indexes, JSON.
-/

namespace DocStore

/-- A comparison of one field with a literal. -/
structure FieldTest where
  field : String
  comparison : Comparison
  literal : Value
deriving Repr

def FieldTest.accepts (test : FieldTest) (document : Document) : Bool :=
  test.comparison.test document test.field test.literal

/-- A condition on documents. -/
inductive Predicate where
  | test (leaf : FieldTest)
  | join (connective : Connective) (operands : List Predicate)
deriving Repr

namespace Predicate

mutual

/-- Whether a document meets a predicate. -/
def accepts (document : Document) : Predicate → Bool
  | test leaf => leaf.accepts document
  | join connective operands => connective.verdict (verdicts document operands)

/-- The verdicts of several predicates on one document, in order. -/
def verdicts (document : Document) : List Predicate → List Bool
  | [] => []
  | operand :: rest => operand.accepts document :: verdicts document rest

end

end Predicate

end DocStore
