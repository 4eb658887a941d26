import QuorumRouting.Ring.Basic

/-!
Building rings. A blueprint holds all that rings over different lists of nodes have in common.
The ids of the nodes must differ, and the number of virtual nodes must fit the machine; the
checks come in a fixed order, and nothing is hashed before all have passed.
-/

set_option autoImplicit false

namespace QuorumRouting

structure Blueprint where
  partitioner : Partitioner
  virtualNodes : Nat
  quorumSize : Nat

namespace Blueprint

variable {Client : Type}

def usualVirtualNodes : Nat := 160

def usualQuorumSize : Nat := 3

def usual : Blueprint :=
  { partitioner := .md5, virtualNodes := usualVirtualNodes, quorumSize := usualQuorumSize }

def firstRepeated : List NodeId → List NodeId → Option NodeId
  | _, [] => none
  | earlier, id :: rest =>
      if id ∈ earlier then some id else firstRepeated (id :: earlier) rest

/-- The largest number of nodes in one ring: a slot is a 32-bit word. -/
def largestNodeCount : Nat := UInt32.size - 1

def virtualNodeBytes : Nat := 16

def obstacle (blueprint : Blueprint) (nodes : List (Handle Client)) : Option (Failure Refusal) :=
  let total := nodes.length * blueprint.virtualNodes
  if blueprint.virtualNodes = 0 then
    some (.refused (.config "virtual nodes per node must be > 0"))
  else if blueprint.quorumSize = 0 then
    some (.refused (.config "quorum size must be > 0"))
  else if largestNodeCount < nodes.length then
    some (.refused (.invalidNode "too many nodes for one ring"))
  else match firstRepeated [] (nodes.map Handle.id) with
    | some id => some (.refused (.duplicateNode id))
    | none =>
        if UInt64.size ≤ total then some (.overflowed .product)
        else if Overflow.largestListBytes < total * virtualNodeBytes then
          some (.overflowed .capacity)
        else none

def unsortedPlaces (blueprint : Blueprint) (nodes : List (Handle Client)) : List VirtualNode :=
  nodes.zipIdx.flatMap (fun (node, slot) =>
    (List.range blueprint.virtualNodes).map (fun index =>
      VirtualNode.place blueprint.partitioner node.id slot index))

def ring (blueprint : Blueprint) (nodes : List (Handle Client)) : Ring Client :=
  { partitioner := blueprint.partitioner
    quorumSize := blueprint.quorumSize
    nodes := nodes
    places := VirtualNode.sorted (blueprint.unsortedPlaces nodes) }

def build (blueprint : Blueprint) (nodes : List (Handle Client)) :
    Except (Failure Refusal) (Ring Client) :=
  match blueprint.obstacle nodes with
  | some failure => .error failure
  | none => .ok (blueprint.ring nodes)

theorem build_eq_ok_iff (blueprint : Blueprint) (nodes : List (Handle Client))
    (built : Ring Client) :
    blueprint.build nodes = .ok built ↔
      blueprint.obstacle nodes = none ∧ blueprint.ring nodes = built := by
  unfold build
  cases blueprint.obstacle nodes with
  | none => simp
  | some failure => simp

end Blueprint

end QuorumRouting
