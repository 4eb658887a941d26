import QuorumRouting.Balancer.Basic
import QuorumRouting.Balancer.Draws
import QuorumRouting.CommandLine.Request
import QuorumRouting.CommandLine.Trouble
import QuorumRouting.Decimal.Places

/-!
The report on a balancer: how often each node was picked, beside the share that its weight gives
it. The draws come from outside, one for each sample.
-/

set_option autoImplicit false

namespace QuorumRouting.CommandLine

namespace BalanceRequest

def balancer (request : BalanceRequest) : Balancer Unit :=
  let handles := Handle.named 0 (request.nodes.map (fun (id, _) => id))
  let weights := request.nodes.map (fun (_, weight) => weight)
  Balancer.make
    (List.zipWith (fun handle weight => { handle := handle, weight := weight }) handles weights)
    WeightedHandle.weight

def picked (balancer : Balancer Unit) (draws : Draws) (count : Nat) : List NodeId :=
  (List.range count).filterMap (fun number => (balancer.pick (draws number)).map Handle.id)

def row (name weight target observed : String) : String :=
  "  " ++ Text.alignLeft 16 name ++ " " ++ Text.alignRight 10 weight ++ " "
    ++ Text.alignRight 10 target ++ " " ++ Text.alignRight 10 observed

/-- The row of one node. Nodes of the same id share what was observed. -/
def nodeRow (sampled : List NodeId) (id : NodeId) (weight target : Float) (samples : Nat) :
    String :=
  let observed := Float.ofNat (sampled.count id) / Float.ofNat samples
  row id (Decimal.fixed 4 weight) (Decimal.fixed 4 target) (Decimal.fixed 4 observed)

def lines (request : BalanceRequest) (draws : Draws) : List String :=
  let balancer := request.balancer
  let samples := request.sampleCount
  let sampled := picked balancer draws samples
  let targets := Weight.shares (request.nodes.map (fun (_, weight) => weight))
  ["balancer: " ++ balancer.kind.text ++ ", " ++ toString samples ++ " samples",
    row "node" "weight" "target" "observed"]
    ++ List.zipWith (fun (id, weight) target => nodeRow sampled id weight target samples)
      request.nodes targets

def report (request : BalanceRequest) (draws : Draws) : Except (Failure Trouble) (List String) :=
  if request.sampleCount = 0 then .error (.refused .noSamples)
  else .ok (request.lines draws)

end BalanceRequest

end QuorumRouting.CommandLine
