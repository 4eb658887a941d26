import QuorumRouting.Proofs.Cluster.Planning
import QuorumRouting.Proofs.Health.Recovery
import QuorumRouting.Proofs.Ring.Removal

/-!
No recovery is lost. Excluded nodes that are due a test request get one from every plan of a key
that they belong to. Once a test request has succeeded, nothing but the end of the window takes its
mark away: not the failures that follow, not further plans, and not changes of the nodes that keep
the node. The next evaluation then restores the node, and it serves all keys that it belongs to.
-/

set_option autoImplicit false

namespace QuorumRouting

variable {Client : Type}

theorem filter_eq_nil_of_absent {Item Name : Type} [DecidableEq Name] (nameOf : Item → Name)
    {items : List Item} {name : Name} (absent : name ∉ items.map nameOf) :
    items.filter (fun item => nameOf item = name) = [] := by
  apply List.filter_eq_nil_iff.mpr
  intro item listed same
  exact absent (of_decide_eq_true same ▸ List.mem_map_of_mem listed)

/-- Where no name is given twice, a member is all there is under its name. -/
theorem filter_eq_singleton {Item Name : Type} [DecidableEq Name] (nameOf : Item → Name)
    {items : List Item} (distinct : (items.map nameOf).Nodup) {item : Item}
    (member : item ∈ items) : items.filter (fun other => nameOf other = nameOf item) = [item] := by
  obtain ⟨before, after, rfl⟩ := List.append_of_mem member
  rw [List.map_append, List.map_cons, List.nodup_middle, List.nodup_cons, List.mem_append,
    not_or] at distinct
  have here : decide (nameOf item = nameOf item) = true := decide_eq_true rfl
  rw [List.filter_append, List.filter_cons, if_pos here,
    filter_eq_nil_of_absent nameOf distinct.1.1, filter_eq_nil_of_absent nameOf distinct.1.2]
  rfl

namespace HealthRecord

structure Recovering (record : HealthRecord) : Prop where
  out : record.inRing = false
  marked : record.recovered = true

variable {record : HealthRecord}

theorem recovering_recordTestSuccess (out : record.inRing = false) :
    record.recordTestSuccess.Recovering := by
  unfold recordTestSuccess
  rw [if_neg (ne_true_of_eq_false out)]
  exact ⟨out, rfl⟩

theorem Recovering.effect (recovering : record.Recovering) (testRequest : Bool)
    (recorded : Recorded) : (HealthRegistry.effect testRequest recorded record).Recovering := by
  have succeeded : record.recordSuccess = record := by
    unfold recordSuccess recordSuccesses
    rw [recovering.out, if_neg (by decide)]
  have failed : record.recordFailure = record := by
    unfold recordFailure recordFailures
    rw [recovering.out, if_neg (by decide)]
  cases recorded with
  | ignored => exact recovering
  | failure =>
      change record.recordFailure.Recovering
      exact failed.symm ▸ recovering
  | success =>
      cases testRequest with
      | false =>
          change record.recordSuccess.Recovering
          exact succeeded.symm ▸ recovering
      | true => exact recovering_recordTestSuccess recovering.out

theorem Recovering.closing (recovering : record.Recovering) {policy : HealthPolicy}
    {now : Instant} {after : HealthRecord} {verdict : Option Transition}
    (closing : record.Closing policy now after verdict) :
    verdict = some .restored ∧ after.inRing = true := by
  have out := recovering.out
  cases closing with
  | restored out tested => exact ⟨rfl, rfl⟩
  | waiting out untested => rw [recovering.marked] at untested; cases untested
  | idle working quiet => rw [out] at working; cases working
  | tripped working busy breach due fits => rw [out] at working; cases working
  | sound working busy within => rw [out] at working; cases working

end HealthRecord

namespace HealthRegistry

def IsRecovering (registry : HealthRegistry) (id : NodeId) : Prop :=
  ∃ record, registry.find? id = some record ∧ record.Recovering

theorem isRecovering_account (registry : HealthRegistry) (id : NodeId)
    (out : registry.isInRing id = false) : (registry.account true id none).1.IsRecovering id := by
  unfold IsRecovering
  rw [find?_account, if_pos rfl]
  rw [isInRing_eq] at out
  cases found : registry.find? id with
  | none => rw [found] at out; cases out
  | some record =>
      rw [found] at out
      exact ⟨_, rfl, HealthRecord.recovering_recordTestSuccess out⟩

section

variable {registry : HealthRegistry} {id : NodeId}

theorem IsRecovering.account (recovering : registry.IsRecovering id) (testRequest : Bool)
    (other : NodeId) (error : Option CallError) :
    (registry.account testRequest other error).1.IsRecovering id := by
  obtain ⟨record, found, marked⟩ := recovering
  unfold IsRecovering
  rw [find?_account, found]
  split
  · exact ⟨_, rfl, marked.effect testRequest _⟩
  · exact ⟨record, rfl, marked⟩

theorem IsRecovering.evaluateAll (recovering : registry.IsRecovering id) {now : Instant}
    {transitions : List (NodeId × Transition)}
    (evaluated : (registry.evaluateAll now).2 = .ok transitions) :
    (id, .restored) ∈ transitions ∧ (registry.evaluateAll now).1.isInRing id = true := by
  obtain ⟨record, found, marked⟩ := recovering
  obtain ⟨verdict, closing, reported⟩ := closing_of_evaluateAll evaluated id record found
  obtain ⟨restored, back⟩ := marked.closing closing
  refine ⟨reported _ restored, ?_⟩
  rw [isInRing_eq, find?_evaluateAll evaluated, found]
  exact back

end

end HealthRegistry

namespace Cluster

variable {cluster : Cluster Client} {id : NodeId}

/-- Does the event leave the windows open, and the node among the nodes of the cluster? -/
def Spares (id : NodeId) : Operation Client × Answer Client → Prop
  | (.evaluateHealth _, _) => False
  | (.updateNodes _ nodes, .ok _) => id ∈ nodes.map Handle.id
  | _ => True

theorem isRecovering_claimProbes {health : HealthRegistry} (recovering : health.IsRecovering id)
    (now : Instant) (nodes : List (Handle Client)) :
    (claimProbes now health nodes).1.IsRecovering id := by
  obtain ⟨record, found, marked⟩ := recovering
  have same := map_find?_claimProbes (fun record => (record.inRing, record.recovered))
    (fun _ _ => rfl) now health nodes id
  rw [found] at same
  obtain ⟨claimed, after, kept⟩ := Option.map_eq_some_iff.mp same
  exact ⟨claimed, after, (congrArg Prod.fst kept).trans marked.out,
    (congrArg Prod.snd kept).trans marked.marked⟩

theorem isRecovering_healthFor (recovering : cluster.health.IsRecovering id) (created : Instant)
    {nodes : List (Handle Client)} (listed : id ∈ nodes.map Handle.id) :
    (cluster.healthFor created nodes).IsRecovering id := by
  obtain ⟨record, found, marked⟩ := recovering
  refine ⟨record, ?_, marked⟩
  rw [find?_healthFor, if_pos listed, found]
  rfl

theorem isRecovering_perform (recovering : cluster.health.IsRecovering id)
    (operation : Operation Client)
    (spared : Spares id (operation, (cluster.perform operation).2)) :
    (cluster.perform operation).1.health.IsRecovering id := by
  cases operation with
  | updateNodes created nodes =>
      change (cluster.updateNodes created nodes).1.health.IsRecovering id
      change Spares id (_, (cluster.updateNodes created nodes).2.map fun _ => Reply.done) at spared
      by_cases admitted : cluster.blueprint.Admits nodes
      · rw [updateNodes_of_admits cluster created nodes admitted] at spared ⊢
        exact isRecovering_healthFor recovering created spared
      · obtain ⟨failure, -, unchanged⟩ :=
          updateNodes_of_not_admits cluster created nodes admitted
        rw [unchanged]
        exact recovering
  | rebalance =>
      change cluster.rebalance.1.health.IsRecovering id
      unfold Cluster.rebalance
      split
      · exact recovering
      · exact recovering
  | evaluateHealth now => exact spared.elim
  | node key => exact recovering
  | quorum key => exact recovering
  | probes key now => exact isRecovering_claimProbes recovering now _
  | recoveryQuorum key now => exact isRecovering_claimProbes recovering now _
  | resolve key now => exact isRecovering_claimProbes recovering now _
  | record other error => exact recovering.account false other error
  | recordTestRequest other error => exact recovering.account true other error

theorem isRecovering_of_run {first : Cluster Client}
    {events : List (Operation Client × Answer Client)} (recovering : first.health.IsRecovering id)
    (run : Run first events cluster) (spared : ∀ event, event ∈ events → Spares id event) :
    cluster.health.IsRecovering id := by
  induction run with
  | start => exact recovering
  | step run operation fits ih =>
      have earlier := ih (fun event member => spared event (List.mem_append_left _ member))
      exact isRecovering_perform earlier operation
        (spared _ (List.mem_append_right _ List.mem_cons_self))

/-- Whatever happens before the next evaluation while the node is kept, that evaluation restores
it, once, and all keys it belongs to are served by it from then on. -/
def RestoresNext (cluster : Cluster Client) (id : NodeId) : Prop :=
  ∀ later after, Run cluster later after → (∀ event, event ∈ later → Spares id event) →
    ∀ now, (after.evaluateHealth now).2 ≠ .error (.overflowed .sum) →
      ∃ judged transitions, after.evaluateHealth now = (judged, .ok transitions) ∧
        transitions.filter (fun entry => entry.1 = id) = [(id, .restored)] ∧
        id ∈ judged.working.ids ∧
        ∀ key, id ∈ judged.recovery.quorumIds key → id ∈ (judged.quorum key).map Handle.id

namespace Consistent

theorem mem_ids_working (consistent : cluster.Consistent) (tracked : id ∈ cluster.health.ids)
    (working : cluster.health.isInRing id = true) : id ∈ cluster.working.ids := by
  obtain ⟨node, listed, rfl⟩ := List.mem_map.mp (consistent.tracked.mem_iff.mp tracked)
  rw [consistent.working_eq]
  exact List.mem_map_of_mem (List.mem_filter.mpr ⟨listed, working⟩)

/-- A key's nodes on the recovery ring serve it as soon as they are in the ring. -/
theorem mem_quorum_of_recovery (consistent : cluster.Consistent)
    (working : cluster.health.isInRing id = true) {key : Key}
    (belongs : id ∈ cluster.recovery.quorumIds key) :
    id ∈ (cluster.quorum key).map Handle.id := by
  obtain ⟨node, listed, rfl⟩ := List.mem_map.mp belongs
  rw [consistent.recovery_eq] at listed
  apply List.mem_map_of_mem
  unfold Cluster.quorum
  rw [consistent.working_eq]
  exact cluster.blueprint.mem_quorum_filter cluster.nodes _ key
    consistent.admits.virtualNodes_pos listed working

theorem evaluateHealth_fits (consistent : cluster.Consistent) (now : Instant)
    (early : ∀ entry, entry ∈ cluster.health.entries → ¬ entry.2.OutOfTime now) :
    (cluster.evaluateHealth now).2 ≠ .error (.overflowed .sum) := by
  cases evaluated : (cluster.health.evaluateAll now).2 with
  | ok transitions =>
      rw [consistent.evaluateHealth_eq now transitions evaluated]
      nofun
  | error overflow =>
      obtain ⟨-, entry, listed, late⟩ := HealthRegistry.evaluateAll_error evaluated
      exact absurd late (early entry listed)

theorem restoresNext (consistent : cluster.Consistent)
    (recovering : cluster.health.IsRecovering id) : cluster.RestoresNext id := by
  intro later after run spared now fits
  have reached := consistent.run run
  have waiting := isRecovering_of_run recovering run spared
  cases evaluated : (after.health.evaluateAll now).2 with
  | error overflow => exact absurd (after.evaluateHealth_of_overflow now overflow evaluated) fits
  | ok transitions =>
      obtain ⟨restored, back⟩ := waiting.evaluateAll evaluated
      have judged := reached.evaluateHealth now transitions evaluated
      rw [reached.evaluateHealth_eq now transitions evaluated] at judged ⊢
      refine ⟨_, transitions, rfl, ?_, ?_, fun key => judged.mem_quorum_of_recovery back⟩
      · exact filter_eq_singleton Prod.fst
          (HealthRegistry.nodup_ids_transitions reached.nodup_ids evaluated) restored
      · refine judged.mem_ids_working ?_ back
        obtain ⟨record, found, -⟩ := waiting
        rw [HealthRegistry.ids_evaluateAll, ← HealthRegistry.find?_isSome_iff, found]
        rfl

end Consistent

/-- A due test request is named by every plan of a key that its node belongs to, and after the
success of a test request the next evaluation restores the node, whatever happens in between. -/
theorem recovery_lasts_of_run {partitioner : Partitioner} {settings : Settings} {created : Instant}
    {nodes : List (Handle Client)} {first : Cluster Client}
    {events : List (Operation Client × Answer Client)}
    (success : create partitioner settings created nodes = .ok first)
    (run : Run first events cluster) :
    (∀ key now, cluster.InTime key now → ∀ node, node ∈ cluster.recovery.quorum key →
      ∀ record, cluster.health.find? node.id = some record → record.inRing = false →
        record.nextProbe.toNat ≤ (record.reading now).toNat →
          ∃ claimed plan, Plan.resolve cluster key now = (claimed, .ok plan) ∧
            { handle := node, testRequest := true } ∈ plan) ∧
      ∀ id, cluster.health.isInRing id = false →
        (cluster.perform (.recordTestRequest id none)).1.RestoresNext id := by
  have consistent := (consistent_of_create success).run run
  constructor
  · intro key now inTime node belongs record found out reached
    refine ⟨_, _, consistent.resolve_eq key now inTime, List.mem_append_right _ ?_⟩
    apply List.mem_map_of_mem
    refine List.mem_filter.mpr ⟨belongs, ?_⟩
    unfold HealthRegistry.isDue
    rw [found]
    exact (record.isDue_iff now).mpr ⟨out, reached⟩
  · intro id out
    exact (consistent.account true id none).restoresNext
      (cluster.health.isRecovering_account id out)

theorem recovery_lasts_past_failure :
    create (Blueprint.ofLengths 2 2).partitioner oneStrike 0 (Handle.named 0 ["ab", "c"]) =
        .ok pair ∧
      ∃ events, Run pair events halved ∧ halved.health.isInRing "ab" = false ∧
        (∀ key, ∃ node, node.id = "ab" ∧ ∃ claimed plan,
          Plan.resolve halved key (milliseconds 5000) = (claimed, .ok plan) ∧
            { handle := node, testRequest := true } ∈ plan) ∧
        let failed := ((halved.perform (.recordTestRequest "ab" none)).1.perform
          (.recordTestRequest "ab" (some (.connect "refused")))).1
        (failed.evaluateHealth (milliseconds 5000)).2 ≠ .error (.overflowed .sum) ∧
          ∃ judged transitions,
            failed.evaluateHealth (milliseconds 5000) = (judged, .ok transitions) ∧
            transitions.filter (fun entry => entry.1 = "ab") = [("ab", .restored)] ∧
            "ab" ∈ judged.working.ids := by
  obtain ⟨events, run⟩ := run_halved
  have later : Run (halved.perform (.recordTestRequest "ab" none)).1 _ _ :=
    Run.start.step (.recordTestRequest "ab" (some (.connect "refused"))) nofun
  have consistent := ((consistent_of_create create_pair).run run).account true "ab" none
  have fits := (consistent.run later).evaluateHealth_fits (milliseconds 5000) (by decide)
  obtain ⟨planned, restored⟩ := recovery_lasts_of_run create_pair run
  refine ⟨create_pair, events, run, by decide, ?_, fits, ?_⟩
  · intro key
    have waiting : "ab" ∈ (halved.due key (milliseconds 5000)).map Handle.id :=
      (due_halved key).symm ▸ List.mem_cons_self
    obtain ⟨node, due, same⟩ := List.mem_map.mp waiting
    have found : halved.health.find? node.id = halved.health.find? "ab" := by rw [same]
    exact ⟨node, same, planned key (milliseconds 5000) (inTime_halved key) node
      (List.mem_filter.mp due).1 _ (found.trans rfl) rfl (by decide)⟩
  · obtain ⟨judged, transitions, evaluated, once, back, -⟩ :=
      restored "ab" (by decide) _ _ later (by
        intro event listed
        rw [List.mem_singleton.mp listed]
        trivial) (milliseconds 5000) fits
    exact ⟨judged, transitions, evaluated, once, back⟩

end Cluster

end QuorumRouting
