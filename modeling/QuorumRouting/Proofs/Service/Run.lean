import QuorumRouting.Proofs.Cluster.Run
import QuorumRouting.Service.Router

/-!
Runs of a router. Lists from discovery, maintenance, changes of weights and the calls that are
served through the router's cluster come in any order, accepted or refused. What changes the nodes
or closes their windows goes through the router and not past it. Runs end before the first sum of
times that needs more than 64 bits.
-/

set_option autoImplicit false

namespace QuorumRouting

variable {Client : Type}

def Cluster.Operation.servesCall : Cluster.Operation Client → Bool
  | .updateNodes _ _ => false
  | .rebalance => false
  | .evaluateHealth _ => false
  | _ => true

namespace Router

inductive Operation (Client : Type) where
  | apply (now : Instant) (listings : List Listing)
  | runMaintenance (now : Instant)
  | rebalance
  | setWeight (position : Nat) (weight : Float)
  | serve (operation : Cluster.Operation Client)

def Operation.isOwn : Operation Client → Bool
  | .serve operation => operation.servesCall
  | _ => true

inductive Reply (Client : Type) where
  | done
  | updated (update : RouterUpdate)
  | transitions (transitions : List (NodeId × Transition))
  | served (reply : Cluster.Reply Client)

abbrev Answer (Client : Type) := Except (Failure Refusal) (Reply Client)

def perform (router : Router Client) : Operation Client → Router Client × Answer Client
  | .apply now listings =>
      let (after, result) := router.apply now listings
      (after, result.map .updated)
  | .runMaintenance now =>
      let (after, result) := router.runMaintenance now
      (after, result.map .transitions)
  | .rebalance => (router.rebalance, .ok .done)
  | .setWeight position weight => ((router.setWeight? position weight).getD router, .ok .done)
  | .serve operation =>
      let (cluster, result) := router.cluster.perform operation
      ({ router with cluster := cluster }, result.map .served)

inductive Run (first : Router Client) :
    List (Operation Client × Answer Client) → Router Client → Prop where
  | start : Run first [] first
  | step {events : List (Operation Client × Answer Client)} {router : Router Client}
      (run : Run first events router) (operation : Operation Client)
      (own : operation.isOwn = true)
      (fits : (router.perform operation).2 ≠ .error (.overflowed .sum)) :
      Run first (events ++ [(operation, (router.perform operation).2)])
        (router.perform operation).1

theorem Run.foldl_perform {first router : Router Client}
    {events : List (Operation Client × Answer Client)} (run : Run first events router) :
    (events.map Prod.fst).foldl (fun router operation => (router.perform operation).1) first =
      router := by
  induction run with
  | start => rfl
  | step run operation own fits ih => rw [List.map_append, List.foldl_append, ih]; rfl

/-- The operations of a run lead to one router only. -/
theorem Run.unique {first router other : Router Client}
    {events : List (Operation Client × Answer Client)} (run : Run first events router)
    (another : Run first events other) : router = other :=
  run.foldl_perform.symm.trans another.foldl_perform

def applied? : Operation Client × Answer Client → Option (List Listing)
  | (.apply _ listings, .ok _) => some listings
  | _ => none

def lastApplied (events : List (Operation Client × Answer Client)) : Option (List Listing) :=
  (events.filterMap applied?).getLast?

theorem lastApplied_append (events : List (Operation Client × Answer Client))
    (event : Operation Client × Answer Client) :
    lastApplied (events ++ [event]) = (applied? event).or (lastApplied events) := by
  unfold lastApplied
  rw [List.filterMap_append]
  cases taken : applied? event with
  | none => simp [taken]
  | some listings => simp [taken]

end Router

end QuorumRouting
