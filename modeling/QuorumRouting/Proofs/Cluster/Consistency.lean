import QuorumRouting.Proofs.Cluster.Run
import QuorumRouting.Proofs.Health.Tracking
import QuorumRouting.Proofs.Ring.Building

/-!
The parts of a cluster stay in step. In every state of every run the recovery ring is the ring of
all nodes, the working ring is the ring of the nodes that the health records have in the ring, and
there is one record for each node. A working ring is built over a part of nodes from which a ring
was built before, so building it never fails, and no change of state is lost behind it.
-/

set_option autoImplicit false

namespace QuorumRouting.Cluster

variable {Client : Type}

/-- What holds of a cluster even while its working ring is out of date. -/
structure Grounded (cluster : Cluster Client) : Prop where
  admits : cluster.blueprint.Admits cluster.nodes
  recovery_eq : cluster.recovery = cluster.blueprint.ring cluster.nodes
  tracked : cluster.health.ids.Perm (cluster.nodes.map Handle.id)

structure Consistent (cluster : Cluster Client) : Prop extends Grounded cluster where
  working_eq : cluster.working = cluster.blueprint.ring (inRing cluster.health cluster.nodes)

theorem Consistent.of_health {cluster : Cluster Client} (consistent : cluster.Consistent)
    (health : HealthRegistry) (sameIds : health.ids = cluster.health.ids)
    (sameRing : ∀ id, health.isInRing id = cluster.health.isInRing id) :
    ({ cluster with health := health } : Cluster Client).Consistent := by
  have sameNodes : inRing health cluster.nodes = inRing cluster.health cluster.nodes := by
    unfold inRing
    simp only [sameRing]
  exact
    { admits := consistent.admits
      recovery_eq := consistent.recovery_eq
      tracked := sameIds ▸ consistent.tracked
      working_eq := consistent.working_eq.trans (congrArg _ sameNodes.symm) }

theorem Grounded.nodup_ids {cluster : Cluster Client} (grounded : cluster.Grounded) :
    cluster.health.ids.Nodup :=
  grounded.tracked.nodup_iff.mpr grounded.admits.distinct

theorem Grounded.rebalance {cluster : Cluster Client} (grounded : cluster.Grounded) :
    cluster.rebalance =
      ({ cluster with working := cluster.blueprint.ring (inRing cluster.health cluster.nodes) },
        .ok ()) := by
  have part : cluster.blueprint.Admits (inRing cluster.health cluster.nodes) :=
    grounded.admits.sublist List.filter_sublist
  unfold Cluster.rebalance
  rw [part.build]

/-! ### Claims and outcomes -/

/-- What no single claim changes, many claims leave as it is. -/
theorem view_claimProbes {View : Type} (view : HealthRegistry → View) (now : Instant)
    (single : ∀ health id, view (health.claimProbe id now).1 = view health)
    (health : HealthRegistry) (nodes : List (Handle Client)) :
    view (claimProbes now health nodes).1 = view health := by
  induction nodes generalizing health with
  | nil => rfl
  | cons node rest ih =>
      have claimed := single health node.id
      unfold claimProbes
      split
      · rename_i after overflow result
        rw [result] at claimed
        exact claimed
      · rename_i after granted result
        rw [result] at claimed
        exact (ih after).trans claimed

theorem ids_claimProbes (now : Instant) (health : HealthRegistry) (nodes : List (Handle Client)) :
    (claimProbes now health nodes).1.ids = health.ids :=
  view_claimProbes HealthRegistry.ids now (fun health id => health.ids_claimProbe id now) health
    nodes

theorem isInRing_claimProbes (now : Instant) (health : HealthRegistry)
    (nodes : List (Handle Client)) (id : NodeId) :
    (claimProbes now health nodes).1.isInRing id = health.isInRing id :=
  view_claimProbes (fun health => health.isInRing id) now
    (fun health other => health.isInRing_claimProbe other id now) health nodes

theorem Consistent.probes {cluster : Cluster Client} (consistent : cluster.Consistent) (key : Key)
    (now : Instant) : (cluster.probes key now).1.Consistent :=
  consistent.of_health _ (ids_claimProbes now cluster.health _)
    (isInRing_claimProbes now cluster.health _)

theorem Consistent.account {cluster : Cluster Client} (consistent : cluster.Consistent)
    (testRequest : Bool) (id : NodeId) (error : Option CallError) :
    ({ cluster with health := (cluster.health.account testRequest id error).1 } :
      Cluster Client).Consistent :=
  consistent.of_health _ (cluster.health.ids_modify id _)
    (fun other => cluster.health.isInRing_account testRequest id other error)

/-! ### Changes of the nodes -/

def healthFor (cluster : Cluster Client) (created : Instant) (nodes : List (Handle Client)) :
    HealthRegistry :=
  (cluster.health.trackAll created (nodes.map Handle.id)).retain (nodes.map Handle.id)

theorem find?_healthFor (cluster : Cluster Client) (created : Instant)
    (nodes : List (Handle Client)) (id : NodeId) :
    (cluster.healthFor created nodes).find? id =
      if id ∈ nodes.map Handle.id then
        some ((cluster.health.find? id).getD
          (HealthRecord.fresh cluster.health.policy.probeInterval created))
      else none := by
  unfold healthFor
  rw [HealthRegistry.find?_retain, HealthRegistry.find?_trackAll]
  by_cases listed : id ∈ nodes.map Handle.id
  · rw [if_pos listed, if_pos listed, if_pos listed]
    cases cluster.health.find? id with
    | none => rfl
    | some record => rfl
  · rw [if_neg listed, if_neg listed]

/-- Nodes are replaced exactly when a ring can be built over the new ones, and otherwise nothing
changes. -/
theorem updateNodes_of_admits (cluster : Cluster Client) (created : Instant)
    (nodes : List (Handle Client)) (admitted : cluster.blueprint.Admits nodes) :
    cluster.updateNodes created nodes =
      ({ cluster with
          health := cluster.healthFor created nodes
          nodes := nodes
          working := cluster.blueprint.ring (inRing (cluster.healthFor created nodes) nodes)
          recovery := cluster.blueprint.ring nodes },
        .ok ()) := by
  have part : cluster.blueprint.Admits (inRing (cluster.healthFor created nodes) nodes) :=
    admitted.sublist List.filter_sublist
  unfold healthFor at part ⊢
  unfold updateNodes
  rw [admitted.build]
  dsimp only
  rw [part.build]

theorem updateNodes_of_not_admits (cluster : Cluster Client) (created : Instant)
    (nodes : List (Handle Client)) (refused : ¬ cluster.blueprint.Admits nodes) :
    ∃ failure, cluster.blueprint.build nodes = .error failure ∧
      cluster.updateNodes created nodes = (cluster, .error failure) := by
  cases built : cluster.blueprint.build nodes with
  | ok ring => exact absurd (Blueprint.Admits.of_build built) refused
  | error failure =>
      refine ⟨failure, rfl, ?_⟩
      unfold updateNodes
      rw [built]

/-- There is one record for each of the other nodes. -/
theorem Grounded.tracked_healthFor {cluster : Cluster Client} (grounded : cluster.Grounded)
    (created : Instant) {nodes : List (Handle Client)} (distinct : (nodes.map Handle.id).Nodup) :
    (cluster.healthFor created nodes).ids.Perm (nodes.map Handle.id) := by
  have recorded : (cluster.healthFor created nodes).ids.Nodup :=
    HealthRegistry.nodup_ids_retain _ _
      (HealthRegistry.nodup_ids_trackAll _ _ _ grounded.nodup_ids)
  apply (List.perm_ext_iff_of_nodup recorded distinct).mpr
  intro id
  rw [← HealthRegistry.find?_isSome_iff, find?_healthFor]
  split
  · rename_i listed
    exact iff_of_true rfl listed
  · rename_i unlisted
    exact iff_of_false (by simp) unlisted

theorem Consistent.updateNodes {cluster : Cluster Client} (consistent : cluster.Consistent)
    (created : Instant) (nodes : List (Handle Client)) :
    (cluster.updateNodes created nodes).1.Consistent := by
  by_cases admitted : cluster.blueprint.Admits nodes
  · rw [updateNodes_of_admits cluster created nodes admitted]
    exact ⟨⟨admitted, rfl, consistent.tracked_healthFor created admitted.distinct⟩, rfl⟩
  · obtain ⟨failure, _, unchanged⟩ :=
      updateNodes_of_not_admits cluster created nodes admitted
    rw [unchanged]
    exact consistent

/-! ### Evaluations -/

/-- Whether or not a node changed its state, the working ring fits the records afterwards. -/
theorem Consistent.evaluateHealth_eq {cluster : Cluster Client} (consistent : cluster.Consistent)
    (now : Instant) (transitions : List (NodeId × Transition))
    (evaluated : (cluster.health.evaluateAll now).2 = .ok transitions) :
    cluster.evaluateHealth now =
      ({ cluster with
          health := (cluster.health.evaluateAll now).1
          working := cluster.blueprint.ring
            (inRing (cluster.health.evaluateAll now).1 cluster.nodes) },
        .ok transitions) := by
  have judged : ({ cluster with health := (cluster.health.evaluateAll now).1 } :
      Cluster Client).Grounded :=
    { admits := consistent.admits
      recovery_eq := consistent.recovery_eq
      tracked := (cluster.health.ids_evaluateAll now).symm ▸ consistent.tracked }
  unfold evaluateHealth
  cases outcome : cluster.health.evaluateAll now with
  | mk health result =>
      rw [outcome] at evaluated judged
      subst evaluated
      dsimp only
      split
      · rename_i quiet
        rw [List.isEmpty_iff.mp quiet] at outcome ⊢
        have kept := consistent.of_health health
          (by
            have same := cluster.health.ids_evaluateAll now
            rw [outcome] at same
            exact same)
          (fun id => by
            have same := HealthRegistry.isInRing_evaluateAll_of_nil cluster.health now
              (congrArg Prod.snd outcome) id
            rw [outcome] at same
            exact same)
        rw [← kept.working_eq]
      · rw [judged.rebalance]
        rfl

theorem Consistent.evaluateHealth {cluster : Cluster Client} (consistent : cluster.Consistent)
    (now : Instant) (transitions : List (NodeId × Transition))
    (evaluated : (cluster.health.evaluateAll now).2 = .ok transitions) :
    (cluster.evaluateHealth now).1.Consistent := by
  rw [consistent.evaluateHealth_eq now transitions evaluated]
  exact
    { admits := consistent.admits
      recovery_eq := consistent.recovery_eq
      tracked := (cluster.health.ids_evaluateAll now).symm ▸ consistent.tracked
      working_eq := rfl }

theorem evaluateHealth_of_overflow (cluster : Cluster Client) (now : Instant)
    (overflow : Overflow) (broken : (cluster.health.evaluateAll now).2 = .error overflow) :
    (cluster.evaluateHealth now).2 = .error (.overflowed .sum) := by
  have sum := (HealthRegistry.evaluateAll_error broken).1
  unfold Cluster.evaluateHealth
  cases outcome : cluster.health.evaluateAll now with
  | mk health result =>
      rw [outcome] at broken
      subst broken sum
      rfl

theorem nodes_rebalance (cluster : Cluster Client) :
    cluster.rebalance.1.nodes = cluster.nodes ∧
      cluster.rebalance.1.blueprint = cluster.blueprint := by
  unfold rebalance
  cases cluster.blueprint.build (inRing cluster.health cluster.nodes) with
  | error failure => exact ⟨rfl, rfl⟩
  | ok working => exact ⟨rfl, rfl⟩

theorem nodes_evaluateHealth (cluster : Cluster Client) (now : Instant) :
    (cluster.evaluateHealth now).1.nodes = cluster.nodes ∧
      (cluster.evaluateHealth now).1.blueprint = cluster.blueprint := by
  unfold evaluateHealth
  cases cluster.health.evaluateAll now with
  | mk health evaluated =>
      cases evaluated with
      | error overflow => exact ⟨rfl, rfl⟩
      | ok transitions =>
          dsimp only
          split
          · exact ⟨rfl, rfl⟩
          · exact nodes_rebalance { cluster with health := health }

/-! ### Runs -/

theorem check_eq_ok {settings checked : Settings} (success : settings.check = .ok checked) :
    checked = settings := by
  unfold Settings.check at success
  split at success
  · cases success
  · exact (Except.ok.inj success).symm

/-- Checked settings leave it to the ring of all nodes whether there is a cluster. -/
theorem create_of_check (partitioner : Partitioner) {settings : Settings}
    (checked : settings.check = .ok settings) (created : Instant)
    (nodes : List (Handle Client)) :
    create partitioner settings created nodes =
      ((settings.blueprint partitioner).build nodes).map (fun ring =>
        { blueprint := settings.blueprint partitioner
          health := (HealthRegistry.empty settings.healthPolicy).trackAll created
            (nodes.map Handle.id)
          nodes := nodes
          working := ring
          recovery := ring }) := by
  unfold create
  cases built : (settings.blueprint partitioner).build nodes with
  | error failure => simp only [checked, Except.mapError, bind, Except.bind, built, Except.map]
  | ok ring =>
      simp only [checked, Except.mapError, bind, Except.bind, built, pure, Except.pure, Except.map]

theorem create_eq_ok {partitioner : Partitioner} {settings : Settings} {created : Instant}
    {nodes : List (Handle Client)} {cluster : Cluster Client}
    (success : create partitioner settings created nodes = .ok cluster) :
    (settings.blueprint partitioner).Admits nodes ∧ cluster =
      { blueprint := settings.blueprint partitioner
        health := (HealthRegistry.empty settings.healthPolicy).trackAll created
          (nodes.map Handle.id)
        nodes := nodes
        working := (settings.blueprint partitioner).ring nodes
        recovery := (settings.blueprint partitioner).ring nodes } := by
  cases check : settings.check with
  | error refusal =>
      unfold create at success
      rw [check] at success
      cases success
  | ok checked =>
      have same := check_eq_ok check
      subst same
      rw [create_of_check partitioner check] at success
      cases built : (checked.blueprint partitioner).build nodes with
      | error failure =>
          rw [built] at success
          cases success
      | ok ring =>
          obtain ⟨admitted, same⟩ :=
            (Blueprint.build_eq_ok_iff_admits _ nodes ring).mp built
          rw [built, ← same] at success
          exact ⟨admitted, (Except.ok.inj success).symm⟩

theorem consistent_of_create {partitioner : Partitioner} {settings : Settings} {created : Instant}
    {nodes : List (Handle Client)} {cluster : Cluster Client}
    (success : create partitioner settings created nodes = .ok cluster) :
    cluster.Consistent := by
  obtain ⟨admitted, same⟩ := create_eq_ok success
  subst same
  have found (id : NodeId) := HealthRegistry.find?_trackAll
    (HealthRegistry.empty settings.healthPolicy) created (nodes.map Handle.id) id
  have recorded := HealthRegistry.nodup_ids_trackAll
    (HealthRegistry.empty settings.healthPolicy) created (nodes.map Handle.id) List.nodup_nil
  refine ⟨⟨admitted, rfl, ?_⟩, ?_⟩
  · apply (List.perm_ext_iff_of_nodup recorded admitted.distinct).mpr
    intro id
    rw [← HealthRegistry.find?_isSome_iff, found]
    split
    · rename_i listed
      exact iff_of_true rfl listed
    · rename_i unlisted
      exact iff_of_false (by simp [HealthRegistry.find?, HealthRegistry.empty]) unlisted
  · have everybody : inRing ((HealthRegistry.empty settings.healthPolicy).trackAll created
        (nodes.map Handle.id)) nodes = nodes := by
      apply List.filter_eq_self.mpr
      intro node _
      rw [HealthRegistry.isInRing_eq, found]
      split
      · rfl
      · rfl
    exact congrArg (settings.blueprint partitioner).ring everybody.symm

theorem Consistent.perform {cluster : Cluster Client} (consistent : cluster.Consistent)
    (operation : Operation Client)
    (fits : (cluster.perform operation).2 ≠ .error (.overflowed .sum)) :
    (cluster.perform operation).1.Consistent := by
  cases operation with
  | updateNodes created nodes => exact consistent.updateNodes created nodes
  | rebalance =>
      change cluster.rebalance.1.Consistent
      rw [consistent.toGrounded.rebalance]
      exact ⟨⟨consistent.admits, consistent.recovery_eq, consistent.tracked⟩, rfl⟩
  | evaluateHealth now =>
      cases evaluated : (cluster.health.evaluateAll now).2 with
      | ok transitions => exact consistent.evaluateHealth now transitions evaluated
      | error overflow =>
          have broken := cluster.evaluateHealth_of_overflow now overflow evaluated
          exact absurd (congrArg (Except.map Reply.transitions) broken) fits
  | node key => exact consistent
  | quorum key => exact consistent
  | probes key now => exact consistent.probes key now
  | recoveryQuorum key now => exact consistent.probes key now
  | resolve key now => exact consistent.probes key now
  | record id error => exact consistent.account false id error
  | recordTestRequest id error => exact consistent.account true id error

theorem Consistent.run {first cluster : Cluster Client}
    {events : List (Operation Client × Answer Client)} (consistent : first.Consistent)
    (run : Run first events cluster) : cluster.Consistent := by
  induction run with
  | start => exact consistent
  | step run operation fits ih => exact ih.perform operation fits

/-- In every state that a created cluster reaches, the rings, the nodes and the records agree.
Rebalancing always succeeds, and an evaluation that does not overflow publishes its changes of
state together with a working ring that fits them. -/
theorem parts_agree_of_run {partitioner : Partitioner} {settings : Settings} {created : Instant}
    {nodes : List (Handle Client)} {first cluster : Cluster Client}
    {events : List (Operation Client × Answer Client)}
    (success : create partitioner settings created nodes = .ok first)
    (run : Run first events cluster) :
    (cluster.nodes.map Handle.id).Nodup ∧
      cluster.recovery.nodes = cluster.nodes ∧
      cluster.working.nodes =
        cluster.nodes.filter (fun node => cluster.health.isInRing node.id) ∧
      cluster.health.ids.Perm (cluster.nodes.map Handle.id) ∧
      cluster.rebalance.2 = .ok () ∧
      ∀ now, (∃ entry, entry ∈ cluster.health.entries ∧ entry.2.OutOfTime now ∧
          (cluster.evaluateHealth now).2 = .error (.overflowed .sum)) ∨
        ∃ transitions, (cluster.evaluateHealth now).2 = .ok transitions ∧
          (cluster.health.evaluateAll now).2 = .ok transitions ∧
          (cluster.evaluateHealth now).1.health = (cluster.health.evaluateAll now).1 ∧
          (cluster.evaluateHealth now).1.working.nodes = cluster.nodes.filter
            (fun node => (cluster.health.evaluateAll now).1.isInRing node.id) := by
  have consistent := (consistent_of_create success).run run
  refine ⟨consistent.admits.distinct, ?_, ?_, consistent.tracked, ?_, ?_⟩
  · rw [consistent.recovery_eq]
    rfl
  · rw [consistent.working_eq]
    rfl
  · rw [consistent.toGrounded.rebalance]
  · intro now
    cases evaluated : (cluster.health.evaluateAll now).2 with
    | error overflow =>
        obtain ⟨_, entry, member, late⟩ := HealthRegistry.evaluateAll_error evaluated
        exact .inl ⟨entry, member, late,
          cluster.evaluateHealth_of_overflow now overflow evaluated⟩
    | ok transitions =>
        rw [consistent.evaluateHealth_eq now transitions evaluated]
        exact .inr ⟨transitions, rfl, rfl, rfl, rfl⟩

def oneStrike : Settings :=
  { Settings.usual with quorumSize := 2, virtualNodes := 2, minRequests := 1 }

def pair : Cluster Unit :=
  { blueprint := .ofLengths 2 2
    health := (HealthRegistry.empty oneStrike.healthPolicy).trackAll 0 ["ab", "c"]
    nodes := Handle.named 0 ["ab", "c"]
    working := (Blueprint.ofLengths 2 2).ring (Handle.named 0 ["ab", "c"])
    recovery := (Blueprint.ofLengths 2 2).ring (Handle.named 0 ["ab", "c"]) }

theorem create_pair :
    create (Blueprint.ofLengths 2 2).partitioner oneStrike 0 (Handle.named 0 ["ab", "c"]) =
      .ok pair :=
  rfl

theorem parts_agree_after_failure :
    create (Blueprint.ofLengths 2 2).partitioner oneStrike 0 (Handle.named 0 ["ab", "c"]) =
        .ok pair ∧
      ∃ events cluster, Run pair events cluster ∧
        (∀ entry, entry ∈ cluster.health.entries → ¬ entry.2.OutOfTime 0) ∧
        cluster.working.ids = ["ab", "c"] ∧ (cluster.evaluateHealth 0).1.working.ids = ["c"] := by
  have run : Run pair _ _ := Run.start.step (.record "ab" (some (.connect "refused"))) nofun
  have inTime : ∀ entry, entry ∈
      (pair.perform (.record "ab" (some (.connect "refused")))).1.health.entries →
        ¬ entry.2.OutOfTime 0 := by
    unfold HealthRecord.OutOfTime
    decide
  obtain ⟨_, _, before, _, _, evaluation⟩ := parts_agree_of_run create_pair run
  refine ⟨create_pair, _, _, run, inTime, ?_, ?_⟩
  · unfold Ring.ids
    rw [before]
    decide
  · rcases evaluation 0 with ⟨entry, member, late, _⟩ | ⟨transitions, _, _, _, after⟩
    · exact absurd late (inTime entry member)
    · unfold Ring.ids
      rw [after]
      decide

end QuorumRouting.Cluster
