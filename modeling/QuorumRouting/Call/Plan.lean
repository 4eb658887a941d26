import QuorumRouting.Cluster

/-!
Plans: whom one call goes to. A plan names the working nodes of the key first and then the
excluded nodes that are due a test request.
-/

set_option autoImplicit false

namespace QuorumRouting

structure Member (Client : Type) where
  handle : Handle Client
  testRequest : Bool
  deriving DecidableEq, Repr

abbrev Plan (Client : Type) := List (Member Client)

namespace Plan

variable {Client : Type}

def ofHandles (handles : List (Handle Client)) : Plan Client :=
  handles.map (fun handle => { handle := handle, testRequest := false })

def addTests (plan : Plan Client) (probes : List (Handle Client)) : Plan Client :=
  probes.foldl (fun members handle =>
    if members.any (fun member => member.handle.id = handle.id) then members
    else members ++ [{ handle := handle, testRequest := true }]) plan

/-- The plan of a key. It claims the test requests that it names, so a plan is made once for each
call. -/
def resolve (cluster : Cluster Client) (key : Key) (now : Instant) :
    Cluster Client × Except Overflow (Plan Client) :=
  let (claimed, probes) := cluster.probes key now
  (claimed, probes.map (fun probes => addTests (ofHandles (cluster.quorum key)) probes))

def ids (plan : Plan Client) : List NodeId :=
  plan.map (fun member => member.handle.id)

def testCount (plan : Plan Client) : Nat :=
  plan.countP Member.testRequest

end Plan

end QuorumRouting
