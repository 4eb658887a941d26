import QuorumRouting.Weight

/-!
Selectors. A selector is the outcome of weighing some items: which of them may be picked, and
which of them a draw between zero and one picks. Items whose share is too small are left out; if
that leaves none, all of them stay in with the same weight.
-/

set_option autoImplicit false

namespace QuorumRouting

inductive Selector where
  | empty
  | single (position : Nat)
  | weighted (bounds : List (Nat × Float))

namespace Selector

def exclusionFactor : Float := 0.001

/-- The last upper end: no draw lies beyond it. -/
def ceiling : Float := 2.0

def runningBounds : Float → List (Nat × Float) → List (Nat × Float)
  | _, [] => []
  | _, [(position, _)] => [(position, ceiling)]
  | running, (position, share) :: next :: rest =>
      (position, running + share) :: runningBounds (running + share) (next :: rest)

/-- The items whose share is not too small, or all of them with weight one. -/
def kept (shares : List Float) : List (Nat × Float) :=
  let cutoff := exclusionFactor / Float.ofNat shares.length
  let large := (shares.zipIdx.map (fun (share, position) => (position, share))).filter
    (fun (_, share) => cutoff < share)
  if large.isEmpty then (List.range shares.length).map (fun position => (position, 1.0))
  else large

/-- Weighs items against each other. A single item is picked whatever its weight. -/
def ofWeights (weights : List Float) : Selector :=
  match weights with
  | [] => .empty
  | [_] => .single 0
  | _ =>
      match kept (Weight.shares weights) with
      | [(position, _)] => .single position
      | several =>
          let positions := several.map (fun (position, _) => position)
          let shares := Weight.shares (several.map (fun (_, share) => share))
          .weighted (runningBounds 0.0 (positions.zip shares))

def positions : Selector → List Nat
  | .empty => []
  | .single position => [position]
  | .weighted bounds => bounds.map (fun (position, _) => position)

/-- The position that a draw picks: the first whose upper end the draw does not pass, or the
last. -/
def pick : Selector → Float → Option Nat
  | .empty, _ => none
  | .single position, _ => some position
  | .weighted bounds, draw =>
      match bounds.find? (fun (_, bound) => !(bound < draw)) with
      | some (position, _) => some position
      | none => bounds.getLast?.map (fun (position, _) => position)

end Selector

end QuorumRouting
