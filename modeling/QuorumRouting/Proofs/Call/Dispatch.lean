import QuorumRouting.Call.Report
import QuorumRouting.Proofs.Cluster.Planning

/-!
Runs of a cluster that serves calls. Every plan leaves one ticket for each of its members. A ticket
is given back when its member completes, which may happen at any later time or never, and only then
does an outcome reach the health records. Nothing is said here about when the members of a plan are
called: one after another, all at once, or among the members of other plans.
-/

set_option autoImplicit false

namespace QuorumRouting

variable {Client : Type}

/-- The one call to a member that its plan allows. -/
structure Ticket (Client : Type) where
  /-- How many events came before the one that made the plan. -/
  call : Nat
  member : Member Client

namespace Cluster

def Operation.isOutcome : Operation Client → Bool
  | .record _ _ => true
  | .recordTestRequest _ _ => true
  | _ => false

inductive Event (Client : Type) where
  | operation (operation : Operation Client) (answer : Answer Client)
  | completion (ticket : Ticket Client) (error : Option CallError)

def tickets (call : Nat) (plan : Plan Client) : List (Ticket Client) :=
  plan.map (fun member => { call := call, member := member })

def issued (call : Nat) : Answer Client → List (Ticket Client)
  | .ok (.plan plan) => tickets call plan
  | _ => []

def completed (cluster : Cluster Client) (member : Member Client) (error : Option CallError) :
    Cluster Client :=
  { cluster with
    health := (cluster.health.account member.testRequest member.handle.id error).1 }

/-- The runs from a first cluster, with their events in the order of time and the tickets that are
still held in the end. -/
inductive Dispatch (first : Cluster Client) :
    List (Event Client) → Cluster Client → List (Ticket Client) → Prop where
  | start : Dispatch first [] first []
  | operate {events : List (Event Client)} {cluster : Cluster Client}
      {held : List (Ticket Client)} (run : Dispatch first events cluster held)
      (operation : Operation Client) (direct : operation.isOutcome = false)
      (fits : (cluster.perform operation).2 ≠ .error (.overflowed .sum)) :
      Dispatch first (events ++ [.operation operation (cluster.perform operation).2])
        (cluster.perform operation).1
        (held ++ issued events.length (cluster.perform operation).2)
  | complete {events : List (Event Client)} {cluster : Cluster Client}
      {held rest : List (Ticket Client)} (run : Dispatch first events cluster held)
      (ticket : Ticket Client) (error : Option CallError) (holds : held.Perm (ticket :: rest)) :
      Dispatch first (events ++ [.completion ticket error])
        (cluster.completed ticket.member error) rest

theorem fresh_of_create {partitioner : Partitioner} {settings : Settings} {created : Instant}
    {nodes : List (Handle Client)} {cluster : Cluster Client}
    (success : create partitioner settings created nodes = .ok cluster) {id : NodeId}
    {record : HealthRecord} (found : cluster.health.find? id = some record) :
    record = HealthRecord.fresh settings.healthPolicy.probeInterval created := by
  rw [(create_eq_ok success).2, HealthRegistry.find?_trackAll] at found
  change (none : Option HealthRecord).or _ = some record at found
  rw [Option.none_or] at found
  split at found
  · exact (Option.some.inj found).symm
  · cases found

theorem Consistent.completed {cluster : Cluster Client} (consistent : cluster.Consistent)
    (member : Member Client) (error : Option CallError) :
    (cluster.completed member error).Consistent :=
  consistent.account member.testRequest member.handle.id error

theorem Consistent.dispatch {first cluster : Cluster Client} {events : List (Event Client)}
    {held : List (Ticket Client)} (consistent : first.Consistent)
    (run : Dispatch first events cluster held) : cluster.Consistent := by
  induction run with
  | start => exact consistent
  | operate run operation direct fits ih => exact ih.perform operation fits
  | complete run ticket error holds ih => exact ih.completed ticket.member error

theorem issued_perform_eq_nil (cluster : Cluster Client) (call : Nat)
    (operation : Operation Client) (other : ∀ key now, operation ≠ .resolve key now) :
    issued call (cluster.perform operation).2 = [] := by
  cases operation with
  | updateNodes created nodes =>
      change issued call ((cluster.updateNodes created nodes).2.map fun _ => Reply.done) = []
      cases (cluster.updateNodes created nodes).2 <;> rfl
  | rebalance =>
      change issued call (cluster.rebalance.2.map fun _ => Reply.done) = []
      cases cluster.rebalance.2 <;> rfl
  | evaluateHealth now =>
      change issued call ((cluster.evaluateHealth now).2.map Reply.transitions) = []
      cases (cluster.evaluateHealth now).2 <;> rfl
  | node key => rfl
  | quorum key => rfl
  | probes key now =>
      change issued call (((cluster.probes key now).2.mapError Failure.overflowed).map
        Reply.nodes) = []
      cases (cluster.probes key now).2 <;> rfl
  | recoveryQuorum key now =>
      change issued call (((cluster.recoveryQuorum key now).2.mapError Failure.overflowed).map
        Reply.nodes) = []
      cases (cluster.recoveryQuorum key now).2 <;> rfl
  | resolve key now => exact absurd rfl (other key now)
  | record id error => rfl
  | recordTestRequest id error => rfl

def judged (cluster : Cluster Client) (now : Instant) : Cluster Client :=
  { cluster with
    health := (cluster.health.evaluateAll now).1
    working := cluster.blueprint.ring
      (inRing (cluster.health.evaluateAll now).1 cluster.nodes) }

section Steps

variable {first cluster : Cluster Client} {events : List (Event Client)}
  {held : List (Ticket Client)}

theorem perform_resolve (consistent : cluster.Consistent) (key : Key) (now : Instant)
    (inTime : cluster.InTime key now) :
    cluster.perform (.resolve key now) =
      (cluster.granting key now, .ok (.plan (cluster.plan key now))) := by
  change ((Plan.resolve cluster key now).1,
    ((Plan.resolve cluster key now).2.mapError Failure.overflowed).map Reply.plan) = _
  rw [consistent.resolve_eq key now inTime]
  rfl

theorem Dispatch.resolve (run : Dispatch first events cluster held)
    (consistent : cluster.Consistent) (key : Key) (now : Instant)
    (inTime : cluster.InTime key now) :
    Dispatch first
      (events ++ [.operation (.resolve key now) (.ok (.plan (cluster.plan key now)))])
      (cluster.granting key now) (held ++ tickets events.length (cluster.plan key now)) := by
  have performed := perform_resolve consistent key now inTime
  have step := run.operate (.resolve key now) rfl (by rw [performed]; nofun)
  rw [performed] at step
  exact step

theorem perform_evaluateHealth (consistent : cluster.Consistent) (now : Instant)
    (transitions : List (NodeId × Transition))
    (evaluated : (cluster.health.evaluateAll now).2 = .ok transitions) :
    cluster.perform (.evaluateHealth now) =
      (cluster.judged now, .ok (.transitions transitions)) := by
  change ((cluster.evaluateHealth now).1,
    (cluster.evaluateHealth now).2.map Reply.transitions) = _
  rw [consistent.evaluateHealth_eq now transitions evaluated]
  rfl

theorem Dispatch.evaluateHealth (run : Dispatch first events cluster held)
    (consistent : cluster.Consistent) (now : Instant) (transitions : List (NodeId × Transition))
    (evaluated : (cluster.health.evaluateAll now).2 = .ok transitions) :
    Dispatch first
      (events ++ [.operation (.evaluateHealth now) (.ok (.transitions transitions))])
      (cluster.judged now) held := by
  have performed := perform_evaluateHealth consistent now transitions evaluated
  have step := run.operate (.evaluateHealth now) rfl (by rw [performed]; nofun)
  rw [performed] at step
  change Dispatch first _ _ (held ++ []) at step
  rw [List.append_nil] at step
  exact step

end Steps

end Cluster

end QuorumRouting
