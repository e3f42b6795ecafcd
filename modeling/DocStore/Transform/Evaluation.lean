import DocStore.Transform.Basic
import DocStore.Settings
import DocStore.Number.Arithmetic
import DocStore.Number.Numeral

/-!
Contract: what transforms compute.

Evaluation never fails. In a fold a number stands for itself and a string names
a field; operands that do not come to a number are left out. Sums and
differences start at zero; products, quotients, powers and roots start at the
first number. Joined texts are written as they display; an operand that names
no field stands for itself. A measure or a cast that has no meaning is null.

Owns: `Computation.evaluate`, `Transform.apply`.
-/

namespace DocStore

/-! ## Folds -/

/-- Folds numbers from the first one on; no numbers come to zero. -/
def Fold.fromFirst (step : Number → Number → Number) : List Number → Number
  | [] => Number.zero
  | first :: rest => rest.foldl step (Number.zero.add first)

/-- Folds numbers into one. -/
def Fold.run (fold : Fold) (numbers : List Number) : Number :=
  match fold with
  | sum => numbers.foldl Number.add Number.zero
  | difference => numbers.foldl Number.sub Number.zero
  | product => fromFirst Number.mul numbers
  | quotient => fromFirst Number.div numbers
  | power => fromFirst Number.power numbers
  | root => fromFirst (fun base degree => base.power ((Number.ofNat 1).div degree)) numbers
  | average => (numbers.foldl Number.add Number.zero).div (Number.ofNat numbers.length)
  | max => numbers.foldl Number.max (.infinite true)
  | min => numbers.foldl Number.min (.infinite false)

namespace Computation

/-- The number that an operand comes to. -/
def operandNumber? (document : Document) : Value → Option Number
  | .number number => some number
  | .string path => (document.get? path).bind Value.number?
  | _ => none

/-! ## Joined texts -/

/-- The scalars of a list, displayed one after another. -/
def scalarsText (items : List Value) : String :=
  String.join ((items.filter Value.isScalar).map Value.displayText)

/-- The text of a field's value: the scalars of an array, anything else as it displays. -/
def fieldText : Value → String
  | .array items => scalarsText items
  | other => other.displayText

/-- The text of one operand. -/
def operandText (settings : Settings) (document : Document) : Value → String
  | .string text =>
      match text.toList with
      | [] => ((document.get? text).map fieldText).getD text
      | first :: rest =>
          if first = settings.literalMark then String.ofList rest
          else ((document.get? text).map fieldText).getD text
  | .array items => scalarsText items
  | other => other.displayText

/-! ## Measures and casts -/

/-- A measure of a field; null where it has no meaning. -/
def measured (measure : Measure) (found : Option Value) : Value :=
  match measure, found with
  | .abs, some (.number number) => .number number.abs
  | .size, some (.string text) => .number (Number.ofNat text.toList.length)
  | .size, some (.array items) => .number (Number.ofNat items.length)
  | _, _ => .null

/-- The truth value a text names, in any case. -/
def truthNamed? (text : String) : Option Bool :=
  if Text.equalIgnoringAsciiCase text "true" then some true
  else if Text.equalIgnoringAsciiCase text "false" then some false
  else none

/-- A cast of a value; null where it has no meaning. -/
def casted (target : CastTarget) : Value → Value
  | .number number =>
      match target with
      | .number => .number number
      | .string => .string number.plainText
      | .boolean => .bool (!number.equals Number.zero)
  | .string text =>
      match target with
      | .number =>
          match Number.ofText? (Text.trim text) with
          | some number => .number number
          | none => .null
      | .string => .string text
      | .boolean =>
          match truthNamed? text with
          | some truth => .bool truth
          | none => .null
  | .bool truth =>
      match target with
      | .number => .null
      | .string => .string (if truth then "true" else "false")
      | .boolean => .bool truth
  | _ => .null

/-! ## Evaluation -/

/-- The value that a computation yields for a document. -/
def evaluate (settings : Settings) (document : Document) : Computation → Value
  | array (.fold fold) operands =>
      .number (fold.run (operands.filterMap (operandNumber? document)))
  | array .concat operands =>
      .string (String.join (operands.map (operandText settings document)))
  | single measure field => measured measure (document.get? field)
  | cast field target =>
      match document.get? field with
      | some found => casted target found
      | none => .null

end Computation

namespace Transform

/-- Whether the guard of a transform, if it has one, lets a document in. -/
def appliesTo (transform : Transform) (document : Document) : Bool :=
  match transform.guard with
  | some predicate => predicate.accepts document
  | none => true

/-- Applies a transform to a document; a document that its guard keeps out is left alone. -/
def apply (settings : Settings) (transform : Transform) (document : Document) : Document :=
  if transform.appliesTo document then
    match transform with
    | addField name _ computation =>
        document.set name (computation.evaluate settings document)
    | removeField name _ => (document.remove name).2
  else document

/-- Applies transforms from left to right. -/
def applyAll (settings : Settings) (transforms : List Transform) (document : Document) :
    Document :=
  transforms.foldl (fun current transform => transform.apply settings current) document

end Transform

end DocStore
