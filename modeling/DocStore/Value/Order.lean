import DocStore.Value.Canonical
import DocStore.Text.LetterCase

/-!
Contract: the order of values.

Values of different kinds follow the order of kinds. Numbers are in numeric
order with NaN last, strings in the order of their lower-case forms and then of
the strings themselves, arrays in the order of their items and then of their
lengths, objects in the order of their canonical texts. A missing value comes
before every value.

Owns: `Value.compare`, `Value.compareOptional`.
-/

namespace DocStore.Value

/-- The order of strings: without regard to case first, exact second. -/
def compareStrings (left right : String) : Ordering :=
  (Ord.compare (Text.lowercase left) (Text.lowercase right)).then (Ord.compare left right)

mutual

/-- The order of two values. -/
def compare : Value → Value → Ordering
  | null, null => .eq
  | bool left, bool right => Ord.compare left right
  | number left, number right => left.compare right
  | string left, string right => compareStrings left right
  | array left, array right => compareItems left right
  | object left, object right =>
      Ord.compare (object left).canonical (object right).canonical
  | left, right => Ord.compare left.kind.rank right.kind.rank

/-- The order of two item lists: the first difference decides, and a list comes before its
extensions. -/
def compareItems : List Value → List Value → Ordering
  | [], [] => .eq
  | [], _ :: _ => .lt
  | _ :: _, [] => .gt
  | left :: leftRest, right :: rightRest =>
      (compare left right).then (compareItems leftRest rightRest)

end

/-- The order of values that may be missing. -/
def compareOptional : Option Value → Option Value → Ordering
  | none, none => .eq
  | none, some _ => .lt
  | some _, none => .gt
  | some left, some right => compare left right

end DocStore.Value
