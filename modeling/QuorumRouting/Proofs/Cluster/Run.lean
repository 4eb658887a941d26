import QuorumRouting.Call.Plan

/-!
Runs of a cluster. Operations come from outside one after another, in any order, accepted or
refused; a run records each of them with what it gave back. Runs end before the first sum of times
that needs more than 64 bits.
-/

set_option autoImplicit false

namespace QuorumRouting.Cluster

variable {Client : Type}

inductive Operation (Client : Type) where
  | updateNodes (created : Instant) (nodes : List (Handle Client))
  | rebalance
  | evaluateHealth (now : Instant)
  | node (key : Key)
  | quorum (key : Key)
  | probes (key : Key) (now : Instant)
  | recoveryQuorum (key : Key) (now : Instant)
  | resolve (key : Key) (now : Instant)
  | record (id : NodeId) (error : Option CallError)
  | recordTestRequest (id : NodeId) (error : Option CallError)

inductive Reply (Client : Type) where
  | done
  | transitions (transitions : List (NodeId × Transition))
  | node (node : Option (Handle Client))
  | nodes (nodes : List (Handle Client))
  | plan (plan : Plan Client)
  | recorded (recorded : Recorded)

abbrev Answer (Client : Type) := Except (Failure Refusal) (Reply Client)

def perform (cluster : Cluster Client) : Operation Client → Cluster Client × Answer Client
  | .updateNodes created nodes =>
      let (updated, result) := cluster.updateNodes created nodes
      (updated, result.map (fun _ => .done))
  | .rebalance =>
      let (rebuilt, result) := cluster.rebalance
      (rebuilt, result.map (fun _ => .done))
  | .evaluateHealth now =>
      let (evaluated, result) := cluster.evaluateHealth now
      (evaluated, result.map .transitions)
  | .node key => (cluster, .ok (.node (cluster.node? key)))
  | .quorum key => (cluster, .ok (.nodes (cluster.quorum key)))
  | .probes key now =>
      let (claimed, result) := cluster.probes key now
      (claimed, (result.mapError .overflowed).map .nodes)
  | .recoveryQuorum key now =>
      let (claimed, result) := cluster.recoveryQuorum key now
      (claimed, (result.mapError .overflowed).map .nodes)
  | .resolve key now =>
      let (claimed, result) := Plan.resolve cluster key now
      (claimed, (result.mapError .overflowed).map .plan)
  | .record id error =>
      let (health, recorded) := cluster.health.record id error
      ({ cluster with health := health }, .ok (.recorded recorded))
  | .recordTestRequest id error =>
      let (health, recorded) := cluster.health.recordTestRequest id error
      ({ cluster with health := health }, .ok (.recorded recorded))

inductive Run (first : Cluster Client) :
    List (Operation Client × Answer Client) → Cluster Client → Prop where
  | start : Run first [] first
  | step {events : List (Operation Client × Answer Client)} {cluster : Cluster Client}
      (run : Run first events cluster) (operation : Operation Client)
      (fits : (cluster.perform operation).2 ≠ .error (.overflowed .sum)) :
      Run first (events ++ [(operation, (cluster.perform operation).2)])
        (cluster.perform operation).1

end QuorumRouting.Cluster
