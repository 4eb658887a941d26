import QuorumRouting.Ring.Basic

/-!
Looking keys up. The walk of a token starts at the first virtual node at or after it and goes
round the ring once. The quorum of a key is the first few different nodes on the walk of its
token, and the node of a key is the first of them.
-/

set_option autoImplicit false

namespace QuorumRouting

/-- The first `count` different slots of a walk, in the order in which they are met. -/
def firstDifferent : Nat → List Nat → List Nat
  | 0, _ => []
  | _ + 1, [] => []
  | count + 1, slot :: rest =>
      slot :: firstDifferent count (rest.filter (fun other => other ≠ slot))

namespace Ring

variable {Client : Type}

/-- All virtual nodes in the order in which they are met clockwise from a token. -/
def walk (ring : Ring Client) (token : Token) : List VirtualNode :=
  ring.places.dropWhile (fun place => place.token < token)
    ++ ring.places.takeWhile (fun place => place.token < token)

def primarySlot? (ring : Ring Client) (token : Token) : Option Nat :=
  (ring.walk token).head?.map VirtualNode.slot

/-- The slots of a token's quorum: as many as asked for, or as there are. -/
def quorumSlots (ring : Ring Client) (token : Token) : List Nat :=
  firstDifferent (min ring.quorumSize ring.nodeCount) ((ring.walk token).map VirtualNode.slot)

/-- The node that a key belongs to; none when the ring is empty. -/
def node? (ring : Ring Client) (key : Key) : Option (Handle Client) :=
  (ring.primarySlot? (ring.partitioner.token key)).bind (fun slot => ring.nodes[slot]?)

def quorum (ring : Ring Client) (key : Key) : List (Handle Client) :=
  ring.nodesIn (ring.quorumSlots (ring.partitioner.token key))

def quorumIds (ring : Ring Client) (key : Key) : List NodeId :=
  (ring.quorum key).map Handle.id

end Ring

end QuorumRouting
