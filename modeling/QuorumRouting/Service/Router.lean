import QuorumRouting.Balancer.Basic
import QuorumRouting.Cluster
import QuorumRouting.Service.Listing

/-!
The router of one service. It turns each list of instances from discovery into handles, keeping
the handles of instances that did not move, and serves keyed calls through a cluster and other
calls through a balancer over the same handles. In the balancer an excluded node weighs nothing.
-/

set_option autoImplicit false

namespace QuorumRouting

structure RouterUpdate where
  added : Nat
  removed : Nat
  kept : Nat
  skipped : Nat
  deriving DecidableEq, Repr

def RouterUpdate.isChange (update : RouterUpdate) : Bool :=
  0 < update.added || 0 < update.removed

structure Router (Client : Type) where
  service : String
  settings : Settings
  createClient : Node → Except ServiceError Client
  cluster : Cluster Client
  balancer : Balancer Client
  /-- How many clients have been made; the next handle gets this number. -/
  made : Nat

structure Intake (Client : Type) where
  seen : List NodeId
  handles : List (Handle Client)
  added : Nat
  kept : Nat
  skipped : Nat
  made : Nat

namespace Router

variable {Client : Type}

def weigh (health : HealthRegistry) (entry : WeightedHandle Client) : Float :=
  if health.isInRing entry.handle.id then entry.weight else 0.0

def create (partitioner : Partitioner) (service : String) (settings : Settings)
    (createClient : Node → Except ServiceError Client) (created : Instant) :
    Except (Failure Refusal) (Router Client) := do
  let cluster ← Cluster.create partitioner settings created []
  return {
    service := service
    settings := settings
    createClient := createClient
    cluster := cluster
    balancer := Balancer.make [] (weigh cluster.health)
    made := 0 }

def initialWeight : Float := 1.0

def weightOf (router : Router Client) (handle : Handle Client) : Float :=
  match router.balancer.entries.find? (fun entry => entry.handle.serial = handle.serial) with
  | some entry => entry.weight
  | none => initialWeight

def current? (router : Router Client) (listing : Listing) : Option (Handle Client) :=
  router.cluster.nodes.find? (fun handle =>
    handle.id = listing.id ∧ handle.node.address = listing.address)

/-- Takes one instance in: a repeated id is skipped, an instance at its old address keeps its
handle, and any other gets a new client, or is skipped when that fails. -/
def receive (router : Router Client) (intake : Intake Client) (listing : Listing) :
    Intake Client :=
  if listing.id ∈ intake.seen then { intake with skipped := intake.skipped + 1 }
  else
    let noted := { intake with seen := listing.id :: intake.seen }
    match router.current? listing with
    | some handle =>
        { noted with handles := intake.handles ++ [handle], kept := intake.kept + 1 }
    | none =>
        match router.createClient listing.toNode with
        | .error _ => { noted with skipped := intake.skipped + 1 }
        | .ok client =>
            let handle :=
              { serial := intake.made, node := listing.toNode, client := client }
            { noted with
              handles := intake.handles ++ [handle]
              added := intake.added + 1
              made := intake.made + 1 }

def receiveAll (router : Router Client) (listings : List Listing) : Intake Client :=
  listings.foldl router.receive
    { seen := [], handles := [], added := 0, kept := 0, skipped := 0, made := router.made }

def inIdOrder (handles : List (Handle Client)) : List (Handle Client) :=
  handles.mergeSort (fun first second => !(second.id < first.id))

def apply (router : Router Client) (now : Instant) (listings : List Listing) :
    Router Client × Except (Failure Refusal) RouterUpdate :=
  let intake := router.receiveAll listings
  let handles := inIdOrder intake.handles
  let update : RouterUpdate :=
    { added := intake.added
      removed := router.cluster.nodes.length - intake.kept
      kept := intake.kept
      skipped := intake.skipped }
  let (cluster, result) := router.cluster.updateNodes now handles
  let moved := { router with cluster := cluster, made := intake.made }
  match result with
  | .error failure => (moved, .error failure)
  | .ok () =>
      let entries := handles.map (fun handle =>
        ({ handle := handle, weight := router.weightOf handle } : WeightedHandle Client))
      ({ moved with balancer := Balancer.make entries (weigh cluster.health) }, .ok update)

def runMaintenance (router : Router Client) (now : Instant) :
    Router Client × Except (Failure Refusal) (List (NodeId × Transition)) :=
  let (cluster, result) := router.cluster.evaluateHealth now
  let judged := { router with cluster := cluster }
  match result with
  | .error failure => (judged, .error failure)
  | .ok transitions =>
      ({ judged with balancer := router.balancer.rebalance (weigh cluster.health) },
        .ok transitions)

def rebalance (router : Router Client) : Router Client :=
  { router with balancer := router.balancer.rebalance (weigh router.cluster.health) }

/-- Sets the weight of the handle at a position; it counts from the next weighing. -/
def setWeight? (router : Router Client) (position : Nat) (weight : Float) :
    Option (Router Client) :=
  (router.balancer.setWeight? position weight).map (fun balancer =>
    { router with balancer := balancer })

/-- Follows a list from discovery if it is about this service. A list that is refused changes
nothing and is not an error. -/
def nodesChanged (router : Router Client) (now : Instant) (service : String)
    (listings : List Listing) : Router Client × Except Overflow Unit :=
  if service ≠ router.service then (router, .ok ())
  else
    match router.apply now listings with
    | (after, .ok _) => (after, .ok ())
    | (after, .error (.refused _)) => (after, .ok ())
    | (after, .error (.overflowed cause)) => (after, .error cause)

def diagnostic (router : Router Client) : String :=
  Text.record "ServiceRouter" [
    ("service", Text.quoted router.service),
    ("keys", router.cluster.diagnostic)]

end Router

end QuorumRouting
