import QuorumRouting.Proofs.Cluster.Recovery
import QuorumRouting.Proofs.Health.Independence
import QuorumRouting.Proofs.Health.Spacing

/-!
The exclusions of the nodes of a cluster. An exclusion begins when an evaluation reports it, lasts
until an evaluation reports that the node is restored or the node leaves the cluster, and has a test
request added to it whenever one is granted. What an operation gives back tells how the exclusion of
a node goes on, and the record of the node goes on in the same way: with one operation of its own,
or with none.
-/

set_option autoImplicit false

namespace QuorumRouting

def Exclusion.grant (exclusion : Exclusion) (now : Instant) : Exclusion :=
  { exclusion with grants := exclusion.grants ++ [now] }

namespace HealthRegistry

theorem lookup_eq_some_iff {transitions : List (NodeId × Transition)}
    (distinct : (transitions.map Prod.fst).Nodup) (id : NodeId) (transition : Transition) :
    transitions.lookup id = some transition ↔ (id, transition) ∈ transitions := by
  constructor
  · intro told
    obtain ⟨before, after, rfl, -⟩ := List.lookup_eq_some_iff.mp told
    exact List.mem_append_right before List.mem_cons_self
  · intro member
    obtain ⟨before, after, rfl⟩ := List.append_of_mem member
    rw [List.map_append, List.map_cons, List.nodup_middle, List.nodup_cons, List.mem_append,
      not_or] at distinct
    refine List.lookup_eq_some_iff.mpr ⟨before, after, rfl, ?_⟩
    intro entry listed
    rw [bne_iff_ne]
    intro same
    exact distinct.1.1 (List.mem_map.mpr ⟨entry, listed, same.symm⟩)

section

variable {registry : HealthRegistry} {now : Instant} {transitions : List (NodeId × Transition)}
  {id : NodeId}

theorem lookup_of_untracked (distinct : registry.ids.Nodup)
    (evaluated : (registry.evaluateAll now).2 = .ok transitions)
    (untracked : registry.find? id = none) : transitions.lookup id = none := by
  rw [Option.eq_none_iff_forall_ne_some]
  intro transition told
  rw [lookup_eq_some_iff (nodup_ids_transitions distinct evaluated),
    mem_transitions_iff distinct evaluated] at told
  obtain ⟨record, found, -⟩ := told
  rw [untracked] at found
  cases found

theorem lookup_of_tracked (distinct : registry.ids.Nodup)
    (evaluated : (registry.evaluateAll now).2 = .ok transitions) {record : HealthRecord}
    (tracked : registry.find? id = some record) :
    (record.evaluate registry.policy now).2 = .ok (transitions.lookup id) := by
  obtain ⟨verdict, judged⟩ :=
    (evaluateAll_ok_iff distinct now).mp ⟨transitions, evaluated⟩ id record tracked
  rw [judged]
  congr 1
  apply Option.ext
  intro transition
  rw [lookup_eq_some_iff (nodup_ids_transitions distinct evaluated),
    mem_transitions_iff distinct evaluated, tracked]
  constructor
  · rintro rfl
    exact ⟨record, rfl, judged⟩
  · rintro ⟨other, same, changed⟩
    cases same
    rw [judged] at changed
    exact Except.ok.inj changed

end

end HealthRegistry

namespace Cluster

variable {Client : Type} {cluster : Cluster Client}

/-! ### What an operation does to one record -/

def granted (cluster : Cluster Client) (key : Key) (now : Instant) : List NodeId :=
  match (cluster.probes key now).2 with
  | .ok probes => probes.map Handle.id
  | .error _ => []

def note (cluster : Cluster Client) (id : NodeId) (present : Option Exclusion) :
    Operation Client → Option Exclusion
  | .updateNodes created nodes =>
      match (cluster.updateNodes created nodes).2 with
      | .ok _ => if id ∈ nodes.map Handle.id then present else none
      | .error _ => present
  | .evaluateHealth now =>
      match (cluster.evaluateHealth now).2 with
      | .ok transitions =>
          match transitions.lookup id with
          | some (.excluded _) => some { since := now, grants := [] }
          | some .restored => none
          | none => present
      | .error _ => present
  | .probes key now | .recoveryQuorum key now | .resolve key now =>
      if id ∈ cluster.granted key now then present.map (fun exclusion => exclusion.grant now)
      else present
  | _ => present

inductive Happens (cluster : Cluster Client) (id : NodeId) (operation : Operation Client) :
    Option HealthRecord → Option HealthRecord → Prop where
  | spared {found : Option HealthRecord}
      (unnoted : ∀ present, cluster.note id present operation = present) :
      Happens cluster id operation found found
  | stepped {record : HealthRecord} {part : HealthRecord.Operation} {answer : HealthRecord.Answer}
      (performed : (record.perform part).2 = .ok answer)
      (noted : ∀ present,
        cluster.note id present operation = HealthRecord.note present (part, answer)) :
      Happens cluster id operation (some record) (some (record.perform part).1)
  | met {created : Instant} {nodes : List (Handle Client)}
      (asked : operation = .updateNodes created nodes)
      (unnoted : ∀ present, cluster.note id present operation = present) :
      Happens cluster id operation none
        (some (HealthRecord.fresh cluster.health.policy.probeInterval created))
  | forgotten {found : Option HealthRecord}
      (noted : ∀ present, cluster.note id present operation = none) :
      Happens cluster id operation found none

theorem happens_updateNodes (cluster : Cluster Client) (id : NodeId) (created : Instant)
    (nodes : List (Handle Client)) :
    cluster.Happens id (.updateNodes created nodes) (cluster.health.find? id)
      ((cluster.updateNodes created nodes).1.health.find? id) := by
  by_cases admitted : cluster.blueprint.Admits nodes
  · have updated := cluster.updateNodes_of_admits created nodes admitted
    have noted (present : Option Exclusion) :
        cluster.note id present (.updateNodes created nodes) =
          if id ∈ nodes.map Handle.id then present else none := by
      unfold note
      dsimp only
      rw [updated]
    rw [updated]
    dsimp only
    rw [find?_healthFor]
    by_cases listed : id ∈ nodes.map Handle.id
    · simp only [if_pos listed] at noted ⊢
      cases cluster.health.find? id with
      | none => exact .met rfl noted
      | some record => exact .spared noted
    · simp only [if_neg listed] at noted ⊢
      exact .forgotten noted
  · obtain ⟨failure, -, unchanged⟩ := updateNodes_of_not_admits cluster created nodes admitted
    rw [unchanged]
    refine .spared ?_
    intro present
    unfold note
    dsimp only
    rw [unchanged]

theorem happens_account (cluster : Cluster Client) (id other : NodeId) (testRequest : Bool)
    (error : Option CallError) {operation : Operation Client}
    (unnoted : ∀ present, cluster.note id present operation = present) :
    cluster.Happens id operation (cluster.health.find? id)
      ((cluster.health.account testRequest other error).1.find? id) := by
  rw [HealthRegistry.find?_account]
  split
  · cases cluster.health.find? id with
    | none => exact .spared unnoted
    | some record =>
        -- An outcome that counts is one operation of the record, which no exclusion notes.
        have counted (part : HealthRecord.Operation)
            (performed : (record.perform part).2 = .ok .done)
            (quiet : ∀ present, HealthRecord.note present (part, .done) = present) :
            cluster.Happens id operation (some record) (some (record.perform part).1) :=
          .stepped performed (fun present => (unnoted present).trans (quiet present).symm)
        cases cluster.health.classify error with
        | ignored => exact .spared unnoted
        | failure => exact counted .failure rfl (fun present => by cases present <;> rfl)
        | success =>
            cases testRequest with
            | false =>
                exact counted .success rfl (fun present => by cases present <;> rfl)
            | true =>
                exact counted .testSuccess rfl (fun present => by cases present <;> rfl)
  · exact .spared unnoted

namespace Consistent

theorem granted_eq (consistent : cluster.Consistent) (key : Key) (now : Instant)
    (inTime : cluster.InTime key now) :
    cluster.granted key now = (cluster.due key now).map Handle.id := by
  unfold Cluster.granted
  rw [consistent.probes_eq key now inTime]

theorem happens_probes (consistent : cluster.Consistent) (id : NodeId) (key : Key) (now : Instant)
    (inTime : cluster.InTime key now) {operation : Operation Client}
    (noted : ∀ present, cluster.note id present operation =
      if id ∈ cluster.granted key now then present.map (fun exclusion => exclusion.grant now)
      else present) :
    cluster.Happens id operation (cluster.health.find? id)
      ((cluster.probes key now).1.health.find? id) := by
  rw [consistent.probes_eq key now inTime]
  rw [consistent.granted_eq key now inTime] at noted
  change cluster.Happens id operation _
    ((cluster.health.postpone now ((cluster.due key now).map Handle.id)).find? id)
  rw [HealthRegistry.find?_postpone]
  by_cases asked : id ∈ (cluster.due key now).map Handle.id
  · simp only [if_pos asked] at noted ⊢
    obtain ⟨belongs, due⟩ := (mem_ids_dueAmong _ now _ id).mp asked
    obtain ⟨record, found, isDue⟩ :=
      Option.map_eq_some_iff.mp ((cluster.health.isDue_iff now id).mp due)
    have claimed := record.claimProbe_of_due now isDue (inTime id belongs record found isDue)
    have performed : record.perform (.claimProbe now) =
        (record.postponed now, .ok (.granted true)) := by
      unfold HealthRecord.perform
      dsimp only
      rw [claimed]
      rfl
    have stepped : cluster.Happens id operation (some record)
        (some (record.perform (.claimProbe now)).1) := by
      refine .stepped (congrArg Prod.snd performed) ?_
      intro present
      rw [noted]
      cases present <;> rfl
    rw [performed] at stepped
    rw [found]
    exact stepped
  · simp only [if_neg asked] at noted ⊢
    exact .spared noted

theorem happens_evaluateHealth (consistent : cluster.Consistent) (id : NodeId) (now : Instant)
    (transitions : List (NodeId × Transition))
    (evaluated : (cluster.health.evaluateAll now).2 = .ok transitions) :
    cluster.Happens id (.evaluateHealth now) (cluster.health.find? id)
      ((cluster.evaluateHealth now).1.health.find? id) := by
  have distinct := consistent.nodup_ids
  have noted (present : Option Exclusion) : cluster.note id present (.evaluateHealth now) =
      match transitions.lookup id with
      | some (.excluded _) => some { since := now, grants := [] }
      | some .restored => none
      | none => present := by
    unfold note
    dsimp only
    rw [consistent.evaluateHealth_eq now transitions evaluated]
  rw [consistent.evaluateHealth_eq now transitions evaluated]
  dsimp only
  rw [HealthRegistry.find?_evaluateAll evaluated]
  cases tracked : cluster.health.find? id with
  | none =>
      rw [HealthRegistry.lookup_of_untracked distinct evaluated tracked] at noted
      exact .spared noted
  | some record =>
      have performed : (record.perform (.evaluate cluster.health.policy now)).2 =
          .ok (.verdict (transitions.lookup id)) :=
        congrArg (Except.map HealthRecord.Answer.verdict)
          (HealthRegistry.lookup_of_tracked distinct evaluated tracked)
      refine .stepped performed ?_
      intro present
      rw [noted]
      rcases transitions.lookup id with _ | (_ | _)
      · cases present <;> rfl
      · rfl
      · rfl

/-- Every operation that fits does one thing to the record of a node. -/
theorem happens_perform (consistent : cluster.Consistent) (id : NodeId)
    (operation : Operation Client)
    (fits : (cluster.perform operation).2 ≠ .error (.overflowed .sum)) :
    cluster.Happens id operation (cluster.health.find? id)
      ((cluster.perform operation).1.health.find? id) := by
  cases operation with
  | updateNodes created nodes => exact cluster.happens_updateNodes id created nodes
  | rebalance =>
      change cluster.Happens id _ _ (cluster.rebalance.1.health.find? id)
      rw [consistent.toGrounded.rebalance]
      exact .spared (fun _ => rfl)
  | evaluateHealth now =>
      cases evaluated : (cluster.health.evaluateAll now).2 with
      | ok transitions => exact consistent.happens_evaluateHealth id now transitions evaluated
      | error overflow =>
          have broken := cluster.evaluateHealth_of_overflow now overflow evaluated
          exact absurd (congrArg (Except.map Reply.transitions) broken) fits
  | node key => exact .spared (fun _ => rfl)
  | quorum key => exact .spared (fun _ => rfl)
  | probes key now =>
      refine consistent.happens_probes id key now (consistent.inTime_of_probes key now ?_)
        (fun _ => rfl)
      intro broken
      apply fits
      unfold Cluster.perform
      dsimp only
      rw [broken]
      rfl
  | recoveryQuorum key now =>
      refine consistent.happens_probes id key now (consistent.inTime_of_probes key now ?_)
        (fun _ => rfl)
      intro broken
      apply fits
      unfold Cluster.perform Cluster.recoveryQuorum
      dsimp only
      rw [broken]
      rfl
  | resolve key now =>
      exact consistent.happens_probes id key now (consistent.inTime_of_fits key now fits)
        (fun _ => rfl)
  | record other error => exact cluster.happens_account id other false error (fun _ => rfl)
  | recordTestRequest other error =>
      exact cluster.happens_account id other true error (fun _ => rfl)

theorem policy_perform (consistent : cluster.Consistent) (operation : Operation Client)
    (fits : (cluster.perform operation).2 ≠ .error (.overflowed .sum)) :
    (cluster.perform operation).1.health.policy = cluster.health.policy := by
  cases operation with
  | updateNodes created nodes =>
      change (cluster.updateNodes created nodes).1.health.policy = _
      by_cases admitted : cluster.blueprint.Admits nodes
      · rw [updateNodes_of_admits cluster created nodes admitted]
        exact HealthRegistry.policy_trackAll _ _ _
      · obtain ⟨failure, -, unchanged⟩ := updateNodes_of_not_admits cluster created nodes admitted
        rw [unchanged]
  | rebalance =>
      change cluster.rebalance.1.health.policy = _
      rw [consistent.toGrounded.rebalance]
  | evaluateHealth now =>
      cases evaluated : (cluster.health.evaluateAll now).2 with
      | ok transitions =>
          change (cluster.evaluateHealth now).1.health.policy = _
          rw [consistent.evaluateHealth_eq now transitions evaluated]
          rfl
      | error overflow =>
          have broken := cluster.evaluateHealth_of_overflow now overflow evaluated
          exact absurd (congrArg (Except.map Reply.transitions) broken) fits
  | node key => rfl
  | quorum key => rfl
  | probes key now => exact policy_claimProbes now cluster.health _
  | recoveryQuorum key now => exact policy_claimProbes now cluster.health _
  | resolve key now => exact policy_claimProbes now cluster.health _
  | record other error => rfl
  | recordTestRequest other error => rfl

end Consistent

/-! ### Runs -/

def exclusion? (first : Cluster Client) (id : NodeId) (operations : List (Operation Client)) :
    Option Exclusion :=
  (operations.foldl (fun (cluster, present) operation =>
    ((cluster.perform operation).1, cluster.note id present operation)) (first, none)).2

theorem foldl_perform_of_run {first : Cluster Client}
    {events : List (Operation Client × Answer Client)} (run : Run first events cluster)
    (id : NodeId) :
    ((events.map Prod.fst).foldl (fun (cluster, present) operation =>
      ((cluster.perform operation).1, cluster.note id present operation)) (first, none)).1 =
        cluster := by
  induction run with
  | start => rfl
  | step run operation fits ih => rw [List.map_append, List.foldl_append, ← ih]; rfl

theorem exclusion?_of_step {first : Cluster Client}
    {events : List (Operation Client × Answer Client)} (run : Run first events cluster)
    (id : NodeId) (operation : Operation Client) :
    first.exclusion? id (events.map Prod.fst ++ [operation]) =
      cluster.note id (first.exclusion? id (events.map Prod.fst)) operation := by
  have reached := foldl_perform_of_run run id
  unfold exclusion?
  rw [List.foldl_append]
  change Cluster.note (Prod.fst _) id _ operation = _
  rw [reached]

section

variable {first : Cluster Client} {events : List (Operation Client × Answer Client)}

theorem Consistent.run_excluded (consistent : cluster.Consistent) (run : Run first events cluster)
    (id : NodeId) (now : Instant) {transitions : List (NodeId × Transition)} {ratio : Float}
    (evaluated : (cluster.health.evaluateAll now).2 = .ok transitions)
    (told : transitions.lookup id = some (.excluded ratio)) :
    ∃ later, Run first later
        { cluster with
          health := (cluster.health.evaluateAll now).1
          working := cluster.blueprint.ring
            (inRing (cluster.health.evaluateAll now).1 cluster.nodes) } ∧
      first.exclusion? id (later.map Prod.fst) = some { since := now, grants := [] } := by
  have outcome := consistent.evaluateHealth_eq now transitions evaluated
  have stepped := run.step (.evaluateHealth now) (by
    change (cluster.evaluateHealth now).2.map Reply.transitions ≠ _
    rw [outcome]
    nofun)
  change Run first _ (cluster.evaluateHealth now).1 at stepped
  rw [outcome] at stepped
  refine ⟨_, stepped, ?_⟩
  rw [List.map_append, List.map_singleton, exclusion?_of_step run]
  unfold note
  dsimp only
  rw [outcome]
  dsimp only
  rw [told]

theorem Consistent.run_granted (consistent : cluster.Consistent) (run : Run first events cluster)
    {id : NodeId} {exclusion : Exclusion}
    (lasts : first.exclusion? id (events.map Prod.fst) = some exclusion) (key : Key)
    (now : Instant) (inTime : cluster.InTime key now)
    (waiting : id ∈ (cluster.due key now).map Handle.id) :
    ∃ later, Run first later (cluster.granting key now) ∧
      first.exclusion? id (later.map Prod.fst) = some (exclusion.grant now) := by
  have outcome := consistent.probes_eq key now inTime
  have stepped := run.step (.probes key now) (by
    unfold Cluster.perform
    dsimp only
    rw [outcome]
    nofun)
  change Run first _ (cluster.probes key now).1 at stepped
  rw [outcome] at stepped
  refine ⟨_, stepped, ?_⟩
  rw [List.map_append, List.map_singleton, exclusion?_of_step run, lasts]
  unfold note
  dsimp only
  rw [consistent.granted_eq key now inTime, if_pos waiting]
  rfl

end

end Cluster

end QuorumRouting
