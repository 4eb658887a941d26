import QuorumRouting.Health.Registry
import QuorumRouting.Ring.Blueprint
import QuorumRouting.Ring.Lookup
import QuorumRouting.Settings.Basic

/-!
A cluster routes keys over nodes that can fail. It keeps two rings over its nodes: the working
ring holds the nodes whose health has them in the ring and serves calls; the recovery ring holds
all nodes, and through it excluded nodes get test requests.

An operation that changes the cluster gives the cluster back together with its result, because an
operation that fails can have changed the health records before it failed.
-/

set_option autoImplicit false

namespace QuorumRouting

structure Cluster (Client : Type) where
  blueprint : Blueprint
  health : HealthRegistry
  nodes : List (Handle Client)
  working : Ring Client
  recovery : Ring Client

namespace Cluster

variable {Client : Type}

def create (partitioner : Partitioner) (settings : Settings) (created : Instant)
    (nodes : List (Handle Client)) : Except (Failure Refusal) (Cluster Client) := do
  let checked ← settings.check.mapError Failure.refused
  let blueprint := checked.blueprint partitioner
  let recovery ← blueprint.build nodes
  let working ← blueprint.build nodes
  return {
    blueprint := blueprint
    health := (HealthRegistry.empty checked.healthPolicy).trackAll created (nodes.map Handle.id)
    nodes := nodes
    working := working
    recovery := recovery }

def node? (cluster : Cluster Client) (key : Key) : Option (Handle Client) :=
  cluster.working.node? key

def quorum (cluster : Cluster Client) (key : Key) : List (Handle Client) :=
  cluster.working.quorum key

def claimProbes (now : Instant) (health : HealthRegistry) :
    List (Handle Client) → HealthRegistry × Except Overflow (List (Handle Client))
  | [] => (health, .ok [])
  | node :: rest =>
      match health.claimProbe node.id now with
      | (claimed, .error overflow) => (claimed, .error overflow)
      | (claimed, .ok granted) =>
          let (after, probes) := claimProbes now claimed rest
          (after, probes.map (fun probes =>
            if granted = some true then node :: probes else probes))

/-- The excluded nodes among a key's nodes on the recovery ring that are due a test request; each
of them has its request claimed. -/
def probes (cluster : Cluster Client) (key : Key) (now : Instant) :
    Cluster Client × Except Overflow (List (Handle Client)) :=
  let (health, probes) := claimProbes now cluster.health (cluster.recovery.quorum key)
  ({ cluster with health := health }, probes)

/-- All of a key's nodes on the recovery ring, if any of them is due a test request. -/
def recoveryQuorum (cluster : Cluster Client) (key : Key) (now : Instant) :
    Cluster Client × Except Overflow (List (Handle Client)) :=
  let (claimed, probes) := cluster.probes key now
  (claimed, probes.map (fun probes =>
    if probes.isEmpty then [] else cluster.recovery.quorum key))

def inRing (health : HealthRegistry) (nodes : List (Handle Client)) : List (Handle Client) :=
  nodes.filter (fun node => health.isInRing node.id)

/-- Replaces the nodes. Records of nodes that stay are kept, new nodes start healthy, and records
of nodes that left are dropped. -/
def updateNodes (cluster : Cluster Client) (created : Instant) (nodes : List (Handle Client)) :
    Cluster Client × Except (Failure Refusal) Unit :=
  match cluster.blueprint.build nodes with
  | .error failure => (cluster, .error failure)
  | .ok recovery =>
      let ids := nodes.map Handle.id
      let health := (cluster.health.trackAll created ids).retain ids
      match cluster.blueprint.build (inRing health nodes) with
      | .error failure => ({ cluster with health := health }, .error failure)
      | .ok working =>
          ({ cluster with
              health := health, nodes := nodes, working := working, recovery := recovery },
            .ok ())

def rebalance (cluster : Cluster Client) : Cluster Client × Except (Failure Refusal) Unit :=
  match cluster.blueprint.build (inRing cluster.health cluster.nodes) with
  | .error failure => (cluster, .error failure)
  | .ok working => ({ cluster with working := working }, .ok ())

/-- Closes the window of every node; when a node's state changed, the working ring is built
again. -/
def evaluateHealth (cluster : Cluster Client) (now : Instant) :
    Cluster Client × Except (Failure Refusal) (List (NodeId × Transition)) :=
  let (health, evaluated) := cluster.health.evaluateAll now
  let judged := { cluster with health := health }
  match evaluated with
  | .error overflow => (judged, .error (.overflowed overflow))
  | .ok transitions =>
      if transitions.isEmpty then (judged, .ok transitions)
      else
        let (rebuilt, result) := judged.rebalance
        (rebuilt, result.map (fun _ => transitions))

def diagnostic (cluster : Cluster Client) : String :=
  Text.record "KeyBalancer" [
    ("working", cluster.working.diagnostic),
    ("recovery", cluster.recovery.diagnostic)]

end Cluster

end QuorumRouting
