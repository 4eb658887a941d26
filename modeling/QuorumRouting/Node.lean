import QuorumRouting.Text.Layout
import QuorumRouting.Decimal.Style

/-!
Nodes and handles. A node is what is known about one instance of a service; a handle is a node
with the client that talks to it. Handles made at different times differ in their serial number,
even for the same node.
-/

set_option autoImplicit false

namespace QuorumRouting

/-- The name of a node. Names are ordered by their characters. -/
abbrev NodeId := String

structure Node where
  id : NodeId
  address : String
  tags : List String
  deriving DecidableEq, Repr

/-- A node of which only the id is known; the id serves as its address. -/
def Node.named (id : NodeId) : Node :=
  { id := id, address := id, tags := [] }

structure Handle (Client : Type) where
  serial : Nat
  node : Node
  client : Client
  deriving DecidableEq, Repr

namespace Handle

variable {Client : Type}

def id (handle : Handle Client) : NodeId :=
  handle.node.id

/-- Handles of named nodes that need no client, numbered on from `start`. -/
def named (start : Nat) (ids : List NodeId) : List (Handle Unit) :=
  ids.zipIdx.map (fun (id, index) =>
    { serial := start + index, node := Node.named id, client := () })

def diagnostic (handle : Handle Client) (weight : Float) : String :=
  Text.record "NodeHandle" [
    ("id", Text.wrapped "NodeId" (Text.quoted handle.id)),
    ("address", Text.quoted handle.node.address),
    ("weight", Decimal.Style.diagnostic.write weight)]

end Handle

end QuorumRouting
