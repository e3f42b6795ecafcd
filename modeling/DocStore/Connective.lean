import DocStore.SortedMap.Basic

/-!
Contract: joining conditions.

A connective joins any number of conditions, either as sets of the keys that
meet them or as verdicts on one document. An empty conjunction selects nothing,
so its negation selects everything; exclusive-or selects what meets exactly one
condition. Verdicts are drawn one at a time and no more of them than decide the
matter.

Owns: set algebra (`joinSets`) and verdicts (`judge`) for the five connectives.
-/

namespace DocStore

/-- How conditions are joined. -/
inductive Connective where
  | and
  | or
  | xor
  | nor
  | nand
deriving DecidableEq, Repr

namespace Connective

def all : List Connective := [and, or, xor, nor, nand]

/-! ## Sets of keys -/

/-- Narrows a set by further ones. Nothing can be taken from an empty set, so it ends the walk. -/
def narrow (kept : KeySet) : List KeySet → KeySet
  | [] => kept
  | set :: rest => if kept.isEmpty then kept else narrow (kept.inter set) rest

/-- The keys that are in every set; none if there are no sets. The smallest set is narrowed by
the others. -/
def intersection (sets : List KeySet) : KeySet :=
  match sets.mergeSort fun left right => decide (left.size ≤ right.size) with
  | [] => SortedMap.empty
  | smallest :: rest => narrow smallest rest

/-- The keys that are in some set. -/
def union : List KeySet → KeySet
  | [] => SortedMap.empty
  | first :: rest => rest.foldl KeySet.union first

/-- Counts one more occurrence of a key. -/
def countKey (counts : SortedMap String Nat) (key : String) : SortedMap String Nat :=
  counts.insert key ((counts.find? key).getD 0 + 1)

/-- How many of the sets each key is in. -/
def occurrences (sets : List KeySet) : SortedMap String Nat :=
  sets.foldl (fun counts set => set.keys.foldl countKey counts) SortedMap.empty

/-- The keys that are in the set at exactly one position. -/
def exactlyOne (sets : List KeySet) : KeySet :=
  ((occurrences sets).filter fun _ count => count == 1).mapValues fun _ => ()

/-- The keys selected by joined conditions, given the keys that meet each of them and the
whole that negations are taken in. -/
def joinSets (connective : Connective) (sets : List KeySet) (everything : KeySet) : KeySet :=
  match connective with
  | and => intersection sets
  | or => union sets
  | xor => exactlyOne sets
  | nor => everything.diff (union sets)
  | nand => everything.diff (intersection sets)

/-! ## Verdicts -/

/-- Draws verdicts up to the first wanted one: whether it came, and how many were drawn. -/
def seek (wanted : Bool) : List Bool → Bool × Nat
  | [] => (false, 0)
  | verdict :: rest =>
      if verdict == wanted then (true, 1)
      else
        let (found, drawn) := seek wanted rest
        (found, drawn + 1)

/-- Draws verdicts up to a second true one: whether exactly one was true, and how many were
drawn. -/
def seekSingle : List Bool → Bool × Nat
  | [] => (false, 0)
  | verdict :: rest =>
      if verdict then
        let (second, drawn) := seek true rest
        (!second, drawn + 1)
      else
        let (single, drawn) := seekSingle rest
        (single, drawn + 1)

/-- The joint verdict on `count` conditions, and how many of the verdicts were drawn for it. -/
def judge (connective : Connective) (count : Nat) (verdicts : List Bool) : Bool × Nat :=
  match connective with
  | and =>
      if count = 0 then (false, 0)
      else
        let (found, drawn) := seek false verdicts
        (!found, drawn)
  | or => seek true verdicts
  | xor => seekSingle verdicts
  | nor =>
      let (found, drawn) := seek true verdicts
      (!found, drawn)
  | nand => if count = 0 then (true, 0) else seek false verdicts

/-- The joint verdict on a list of verdicts. -/
def verdict (connective : Connective) (verdicts : List Bool) : Bool :=
  (connective.judge verdicts.length verdicts).1

end Connective

end DocStore
