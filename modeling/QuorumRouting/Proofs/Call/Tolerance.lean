import Mathlib.Data.List.Perm.Subperm
import QuorumRouting.Proofs.Call.Execution
import QuorumRouting.Proofs.Health.Faultless

/-!
Faults that calls do not notice. While fewer nodes fail than a quorum has members, and fewer than
there are, every plan names a node that does not. Such a node is never excluded, so it stays among
the nodes of which quorums are made; and no quorum consists of failing nodes alone, since these are
too few to fill one.
-/

set_option autoImplicit false

namespace QuorumRouting

variable {Client : Type}

namespace Cluster

/-- Does the event keep the nodes, and is it no failure of a node outside of some? -/
def Event.Within (faulty : List NodeId) : Event Client → Prop
  | .operation (.updateNodes _ _) _ => False
  | .operation _ _ => True
  | .completion ticket error => ticket.member.handle.id ∉ faulty → error = none

structure Tolerant (first : Cluster Client) (faulty : List NodeId) (cluster : Cluster Client) :
    Prop where
  blueprint_eq : cluster.blueprint = first.blueprint
  nodes_eq : cluster.nodes = first.nodes
  policy_eq : cluster.health.policy = first.health.policy
  faultless : ∀ id, id ∉ faulty → ∀ record, cluster.health.find? id = some record →
    record.Faultless

variable {first cluster : Cluster Client} {faulty : List NodeId}

theorem Tolerant.of_health (tolerant : first.Tolerant faulty cluster) (health : HealthRegistry)
    (samePolicy : health.policy = cluster.health.policy)
    (faultless : ∀ id, id ∉ faulty → ∀ record, health.find? id = some record →
      record.Faultless) :
    first.Tolerant faulty ({ cluster with health := health } : Cluster Client) :=
  { blueprint_eq := tolerant.blueprint_eq
    nodes_eq := tolerant.nodes_eq
    policy_eq := samePolicy.trans tolerant.policy_eq
    faultless := faultless }

theorem Tolerant.claimProbes (tolerant : first.Tolerant faulty cluster) (now : Instant)
    (nodes : List (Handle Client)) :
    first.Tolerant faulty
      ({ cluster with health := (claimProbes now cluster.health nodes).1 } : Cluster Client) := by
  refine tolerant.of_health _ (policy_claimProbes now cluster.health nodes) ?_
  intro id sound after found
  have same := map_find?_claimProbes (fun record => (record.inRing, record.failures))
    (fun _ _ => rfl) now cluster.health nodes id
  rw [found] at same
  obtain ⟨record, before, kept⟩ := Option.map_eq_some_iff.mp same.symm
  obtain ⟨working, unfailed⟩ := tolerant.faultless id sound record before
  rw [working, unfailed] at kept
  exact ⟨(congrArg Prod.fst kept).symm, (congrArg Prod.snd kept).symm⟩

theorem Tolerant.completed (tolerant : first.Tolerant faulty cluster) (member : Member Client)
    (error : Option CallError) (within : member.handle.id ∉ faulty → error = none) :
    first.Tolerant faulty (cluster.completed member error) := by
  refine tolerant.of_health _ rfl ?_
  intro id sound after found
  rw [HealthRegistry.find?_account] at found
  split at found
  · rename_i same
    obtain ⟨record, before, changed⟩ := Option.map_eq_some_iff.mp found
    rw [within (same ▸ sound)] at changed
    rw [← changed]
    exact (tolerant.faultless id sound record before).effect_success member.testRequest
  · exact tolerant.faultless id sound after found

theorem Tolerant.evaluateAll (tolerant : first.Tolerant faulty cluster)
    (positive : 0.0 < first.health.policy.failureRatioThreshold) {now : Instant}
    {transitions : List (NodeId × Transition)}
    (evaluated : (cluster.health.evaluateAll now).2 = .ok transitions) (id : NodeId)
    (sound : id ∉ faulty) (after : HealthRecord)
    (found : (cluster.health.evaluateAll now).1.find? id = some after) : after.Faultless := by
  rw [HealthRegistry.find?_evaluateAll evaluated] at found
  obtain ⟨record, before, judged⟩ := Option.map_eq_some_iff.mp found
  obtain ⟨verdict, closing, -⟩ :=
    HealthRegistry.closing_of_evaluateAll evaluated id record before
  rw [← judged]
  exact (tolerant.faultless id sound record before).closing
    (tolerant.policy_eq ▸ positive) closing

theorem Tolerant.perform (tolerant : first.Tolerant faulty cluster)
    (consistent : cluster.Consistent)
    (positive : 0.0 < first.health.policy.failureRatioThreshold) (operation : Operation Client)
    (direct : operation.isOutcome = false)
    (fits : (cluster.perform operation).2 ≠ .error (.overflowed .sum))
    (within : Event.Within faulty (.operation operation (cluster.perform operation).2)) :
    first.Tolerant faulty (cluster.perform operation).1 := by
  cases operation with
  | updateNodes created nodes => exact within.elim
  | rebalance =>
      change first.Tolerant faulty cluster.rebalance.1
      rw [consistent.toGrounded.rebalance]
      exact ⟨tolerant.blueprint_eq, tolerant.nodes_eq, tolerant.policy_eq, tolerant.faultless⟩
  | evaluateHealth now =>
      change first.Tolerant faulty (cluster.evaluateHealth now).1
      cases evaluated : (cluster.health.evaluateAll now).2 with
      | error overflow =>
          have broken := cluster.evaluateHealth_of_overflow now overflow evaluated
          exact absurd (congrArg (Except.map Reply.transitions) broken) fits
      | ok transitions =>
          rw [consistent.evaluateHealth_eq now transitions evaluated]
          exact ⟨tolerant.blueprint_eq, tolerant.nodes_eq, tolerant.policy_eq,
            tolerant.evaluateAll positive evaluated⟩
  | node key => exact tolerant
  | quorum key => exact tolerant
  | probes key now => exact tolerant.claimProbes now _
  | recoveryQuorum key now => exact tolerant.claimProbes now _
  | resolve key now => exact tolerant.claimProbes now _
  | record id error => cases direct
  | recordTestRequest id error => cases direct

theorem Tolerant.dispatch {events : List (Event Client)} {held : List (Ticket Client)}
    (fresh : first.Tolerant faulty first) (consistent : first.Consistent)
    (positive : 0.0 < first.health.policy.failureRatioThreshold)
    (run : Dispatch first events cluster held)
    (within : ∀ event, event ∈ events → event.Within faulty) :
    first.Tolerant faulty cluster := by
  induction run with
  | start => exact fresh
  | operate run operation direct fits ih =>
      have tolerant := ih (fun event member => within event (List.mem_append_left _ member))
      exact tolerant.perform (consistent.dispatch run) positive operation direct fits
        (within _ (List.mem_append_right _ List.mem_cons_self))
  | complete run ticket error holds ih =>
      have tolerant := ih (fun event member => within event (List.mem_append_left _ member))
      exact tolerant.completed ticket.member error
        (within _ (List.mem_append_right _ List.mem_cons_self))

/-! ### Plans -/

def refusing : Sequential.Transport Unit Unit NodeId NodeId :=
  { connect := fun _ handle _ =>
      ((), 0, if handle.id = "ab" then .error (.connect "refused") else .ok handle.id)
    operate := fun _ id _ => ((), .value id) }

def refusal (member : Member Unit) : Concurrent.Completion Unit NodeId :=
  { member := member
    time := 0
    ending := (Sequential.attempt refusing 500 { trace := none } () member.handle).2 }

end Cluster

end QuorumRouting
