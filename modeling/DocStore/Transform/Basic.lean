import DocStore.Predicate.Basic

/-!
Contract: transforms of documents.

A transform adds a computed field or removes one, if the document meets its
guard. A computation folds operands, measures one field or casts one field.

Owns: the types. Does not own: evaluation, JSON.
-/

namespace DocStore

/-- How numbers are folded into one. -/
inductive Fold where
  | sum
  | difference
  | product
  | quotient
  | power
  | root
  | average
  | max
  | min
deriving DecidableEq, Repr

/-- What is done with a list of operands. -/
inductive ArrayOperation where
  | fold (fold : Fold)
  | concat
deriving DecidableEq, Repr

/-- What is measured of one field. -/
inductive Measure where
  | abs
  | size
deriving DecidableEq, Repr

/-- What one field is cast to. -/
inductive CastTarget where
  | number
  | string
  | boolean
deriving DecidableEq, Repr

/-- How the value of an added field is computed. -/
inductive Computation where
  | array (operation : ArrayOperation) (operands : List Value)
  | single (measure : Measure) (field : String)
  | cast (field : String) (target : CastTarget)
deriving Repr

/-- A change of one field. -/
inductive Transform where
  | addField (name : String) (guard : Option Predicate) (computation : Computation)
  | removeField (name : String) (guard : Option Predicate)
deriving Repr

namespace Transform

def guard : Transform → Option Predicate
  | addField _ guard _ => guard
  | removeField _ guard => guard

end Transform

end DocStore
