import QuorumRouting.Ring.Basic

/-!
Ownership. A virtual node owns the tokens after the virtual node before it, up to its own; what a
node owns is the sum over its virtual nodes, as a part of the whole ring.
-/

set_option autoImplicit false

namespace QuorumRouting.Ring

variable {Client : Type}

def fullTurn : Nat := UInt64.size

/-- Every virtual node with the number of tokens it owns. A virtual node that is alone owns the
full turn; one that has company owns the way from the one before it. -/
def spans (ring : Ring Client) : List (Nat × Nat) :=
  match ring.places with
  | [] => []
  | [only] => [(only.slot, fullTurn)]
  | first :: rest =>
      let before := (first :: rest).getLast (List.cons_ne_nil first rest)
      List.zipWith (fun earlier place =>
        (place.slot, (earlier.token.distanceTo place.token).toNat))
        (before :: first :: rest) (first :: rest)

def ownedTokens (ring : Ring Client) (slot : Nat) : Nat :=
  (ring.spans.filter (fun (owner, _) => owner = slot)).foldr (fun (_, span) total => span + total) 0

def share (tokens : Nat) : Float :=
  Float.ofNat tokens / Float.ofNat fullTurn

def ownership (ring : Ring Client) : List (NodeId × Float) :=
  ring.nodes.zipIdx.map (fun (node, slot) => (node.id, share (ring.ownedTokens slot)))

end QuorumRouting.Ring
