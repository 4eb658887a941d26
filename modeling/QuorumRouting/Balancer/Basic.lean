import QuorumRouting.Balancer.Selector
import QuorumRouting.Node

/-!
Balancers. A balancer spreads calls without a key over its handles by weight. A handle's weight
can be set at any time; it counts from the next time the balancer weighs its handles, and until
then the selector stays as it is.
-/

set_option autoImplicit false

namespace QuorumRouting

structure WeightedHandle (Client : Type) where
  handle : Handle Client
  weight : Float

inductive BalancerKind where
  | empty
  | single
  | weightedRandom
  deriving DecidableEq, Repr

def BalancerKind.text : BalancerKind → String
  | .empty => "Empty"
  | .single => "Single"
  | .weightedRandom => "WeightedRandom"

structure Balancer (Client : Type) where
  entries : List (WeightedHandle Client)
  selector : Selector

namespace Balancer

variable {Client : Type}

def make (entries : List (WeightedHandle Client)) (weigh : WeightedHandle Client → Float) :
    Balancer Client :=
  { entries := entries, selector := Selector.ofWeights (entries.map weigh) }

def rebalance (balancer : Balancer Client) (weigh : WeightedHandle Client → Float) :
    Balancer Client :=
  make balancer.entries weigh

def setWeight? (balancer : Balancer Client) (position : Nat) (weight : Float) :
    Option (Balancer Client) :=
  if position < balancer.entries.length then
    some { balancer with
      entries := balancer.entries.modify position (fun entry => { entry with weight := weight }) }
  else none

def handles (balancer : Balancer Client) : List (Handle Client) :=
  balancer.entries.map WeightedHandle.handle

def pick (balancer : Balancer Client) (draw : Float) : Option (Handle Client) :=
  (balancer.selector.pick draw).bind (fun position => balancer.handles[position]?)

def selectable (balancer : Balancer Client) : List NodeId :=
  balancer.selector.positions.filterMap (fun position =>
    (balancer.handles[position]?).map Handle.id)

def kind (balancer : Balancer Client) : BalancerKind :=
  match balancer.selector with
  | .empty => .empty
  | .single _ => .single
  | .weighted _ => .weightedRandom

def diagnostic (balancer : Balancer Client) : String :=
  Text.record "Balancer" [
    ("nodes", toString balancer.entries.length),
    ("kind", balancer.kind.text)]

end Balancer

end QuorumRouting
