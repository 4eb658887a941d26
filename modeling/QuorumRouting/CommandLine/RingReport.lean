import QuorumRouting.CommandLine.Request
import QuorumRouting.CommandLine.Trouble
import QuorumRouting.Decimal.Places
import QuorumRouting.Ring.Blueprint
import QuorumRouting.Ring.Lookup
import QuorumRouting.Ring.Ownership
import QuorumRouting.Settings.Basic

/-!
The report on a ring: its sizes, the quorum of each key that the user named, and how much of the
ring each node owns.
-/

set_option autoImplicit false

namespace QuorumRouting.CommandLine

namespace RingRequest

def blueprint (request : RingRequest) (settings : Settings) : Blueprint :=
  { partitioner := request.partitioner
    virtualNodes := request.virtualNodes.getD settings.virtualNodes.toNat
    quorumSize := request.quorumSize.getD settings.quorumSize.toNat }

def summaryLine (ring : Ring Unit) : String :=
  "ring: " ++ toString ring.nodeCount ++ " nodes, " ++ toString ring.tokenCount
    ++ " tokens, quorum " ++ toString ring.quorumSize ++ ", " ++ ring.partitioner.name

def keyLine (ring : Ring Unit) (key : String) : String :=
  let bytes := Key.ofText key
  key ++ " (token " ++ Token.text (ring.partitioner.token bytes) ++ ") -> "
    ++ Text.listed (ring.quorumIds bytes)

def ownershipLine (id : NodeId) (share : Float) : String :=
  "  " ++ id ++ " " ++ Text.alignRight 6 (Decimal.fixed 2 (share * 100.0)) ++ "%"

def lines (ring : Ring Unit) (keys : List String) : List String :=
  [summaryLine ring] ++ keys.map (keyLine ring) ++ ["ownership:"]
    ++ ring.ownership.map (fun (id, share) => ownershipLine id share)

def report (request : RingRequest) (settings : Settings) :
    Except (Failure Trouble) (List String) :=
  match (request.blueprint settings).build (Handle.named 0 request.nodes) with
  | .error failure => .error (failure.mapReason .noRing)
  | .ok ring => .ok (lines ring request.keys)

end RingRequest

end QuorumRouting.CommandLine
