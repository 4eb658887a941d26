import QuorumRouting.Failure
import QuorumRouting.Node
import QuorumRouting.Partitioner

/-!
The ring. Every node has several places on it, its virtual nodes; the token of each is the
partitioner's token of the node's id, a colon and the number of the virtual node. A virtual node
knows its owner by slot, the owner's position in the list of nodes. The virtual nodes are in
ascending order of token, and of slot where tokens are equal.
-/

set_option autoImplicit false

namespace QuorumRouting

structure VirtualNode where
  token : Token
  slot : Nat
  deriving DecidableEq, Repr

namespace VirtualNode

def placementKey (id : NodeId) (index : Nat) : Key :=
  Key.ofText (id ++ ":" ++ toString index)

def place (partitioner : Partitioner) (id : NodeId) (slot index : Nat) : VirtualNode :=
  { token := partitioner.token (placementKey id index), slot := slot }

def atMost (first second : VirtualNode) : Bool :=
  first.token < second.token || (first.token = second.token && first.slot ≤ second.slot)

def sorted (places : List VirtualNode) : List VirtualNode :=
  places.mergeSort atMost

def text (place : VirtualNode) : String :=
  "VNode(token=" ++ Token.text place.token ++ ", slot=" ++ toString place.slot ++ ")"

end VirtualNode

/-- Nodes with their virtual nodes in ring order, and how many nodes a lookup is to give. -/
structure Ring (Client : Type) where
  partitioner : Partitioner
  quorumSize : Nat
  nodes : List (Handle Client)
  places : List VirtualNode

namespace Ring

variable {Client : Type}

def nodeCount (ring : Ring Client) : Nat :=
  ring.nodes.length

def tokenCount (ring : Ring Client) : Nat :=
  ring.places.length

def isEmpty (ring : Ring Client) : Bool :=
  ring.nodes.isEmpty

def ids (ring : Ring Client) : List NodeId :=
  ring.nodes.map Handle.id

/-- The nodes in some slots; a slot without a node gives nothing. -/
def nodesIn (ring : Ring Client) (slots : List Nat) : List (Handle Client) :=
  slots.filterMap (fun slot => ring.nodes[slot]?)

def tokens (ring : Ring Client) : List (Token × NodeId) :=
  ring.places.filterMap (fun place =>
    (ring.nodes[place.slot]?).map (fun node => (place.token, node.id)))

def diagnostic (ring : Ring Client) : String :=
  Text.record "HashRing" [
    ("nodes", toString ring.nodeCount),
    ("tokens", toString ring.tokenCount),
    ("quorum", toString ring.quorumSize),
    ("partitioner", Text.quoted ring.partitioner.name)]

end Ring

end QuorumRouting
