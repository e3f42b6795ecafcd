import DocStore.Document
import DocStore.Text.LetterCase

/-!
Contract: comparing a field of a document with a literal.

Scalars of one kind are compared; different kinds never match. Order compares
numbers only, containment strings only, and string equality ignores case. An
array literal matches scalars by membership, and only under `isIn`; objects
are equal when their canonical keys are. Whatever has no meaning does not match,
and neither does a missing field.

Owns: the nine comparisons and what each of them accepts.
-/

namespace DocStore

/-- How a field is compared with a literal. -/
inductive Comparison where
  | equals
  | notEquals
  | greater
  | greaterOrEqual
  | smaller
  | smallerOrEqual
  | isIn
  | isNotIn
  | contains
deriving DecidableEq, Repr

namespace Comparison

/-- Every comparison, in the order of their declaration. -/
def all : List Comparison :=
  [equals, notEquals, greater, greaterOrEqual, smaller, smallerOrEqual, isIn, isNotIn, contains]

/-- Whether a character list occurs inside another. -/
def occursIn (part : List Char) : List Char → Bool
  | [] => part.isEmpty
  | character :: rest => part.isPrefixOf (character :: rest) || occursIn part rest

/-- Whether a number stands in a comparison to a literal number. -/
def holdsOnNumbers (comparison : Comparison) (literal found : Number) : Bool :=
  match comparison with
  | equals => literal.equals found
  | notEquals => !literal.equals found
  | greater => literal.isLess found
  | greaterOrEqual => literal.isAtMost found
  | smaller => found.isLess literal
  | smallerOrEqual => found.isAtMost literal
  | isIn | isNotIn | contains => false

/-- Whether a string stands in a comparison to a literal string. -/
def holdsOnStrings (comparison : Comparison) (literal found : String) : Bool :=
  match comparison with
  | equals => Text.equalIgnoringCase literal found
  | notEquals => !Text.equalIgnoringCase literal found
  | contains => occursIn literal.toList found.toList
  | _ => false

/-- Whether a scalar stands in a comparison to a literal scalar. -/
def holdsOnScalars (comparison : Comparison) (literal found : Value) : Bool :=
  match literal, found with
  | .null, .null => comparison == equals
  | .bool literal, .bool found =>
      match comparison with
      | equals => literal == found
      | notEquals => literal != found
      | _ => false
  | .number literal, .number found => comparison.holdsOnNumbers literal found
  | .string literal, .string found => comparison.holdsOnStrings literal found
  | _, _ => false

/-- Whether a value stands in a comparison to a literal. -/
def holds (comparison : Comparison) (literal found : Value) : Bool :=
  match literal, found with
  | .array members, found =>
      found.isScalar && comparison == isIn &&
        members.any fun member => member.isScalar && equals.holdsOnScalars member found
  | .object literal, .object found =>
      let same := (Value.object literal).canonicalKey == (Value.object found).canonicalKey
      match comparison with
      | equals => same
      | notEquals => !same
      | _ => false
  | literal, found =>
      literal.isScalar && found.isScalar && comparison.holdsOnScalars literal found

/-- Whether the field at a path stands in a comparison to a literal. A missing field does not. -/
def test (comparison : Comparison) (document : Document) (field : String) (literal : Value) :
    Bool :=
  match document.get? field with
  | some found => comparison.holds literal found
  | none => false

end Comparison

end DocStore
