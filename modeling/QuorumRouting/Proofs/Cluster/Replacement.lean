import QuorumRouting.Proofs.Cluster.Planning

/-!
Replacing the nodes of a cluster. Whatever became of the cluster before, its registry tracks its
nodes and nobody else. A list from which no ring can be built is turned down and leaves no trace.
With any other list both rings are built over the new nodes: nodes that stay keep their records as
they are, excluded ones stay out of the working ring, and everybody else starts with a fresh record.
-/

set_option autoImplicit false

namespace QuorumRouting.Cluster

variable {Client : Type}

/-- What a first cluster can become. Operations may be refused or break off at an overflow, and
records may change behind the cluster's back as long as nobody is tracked or forgotten. -/
inductive Reaches (first : Cluster Client) : Cluster Client → Prop where
  | start : Reaches first first
  | perform {cluster : Cluster Client} (reached : Reaches first cluster)
      (operation : Operation Client) : Reaches first (cluster.perform operation).1
  | records {cluster : Cluster Client} (reached : Reaches first cluster)
      (entries : List (NodeId × HealthRecord))
      (sameIds : entries.map Prod.fst = cluster.health.ids) :
      Reaches first { cluster with health := { cluster.health with entries := entries } }

theorem Run.reaches {first cluster : Cluster Client}
    {events : List (Operation Client × Answer Client)} (run : Run first events cluster) :
    Reaches first cluster := by
  induction run with
  | start => exact .start
  | step run operation fits ih => exact ih.perform operation

namespace Grounded

variable {cluster : Cluster Client}

theorem of_ids (grounded : cluster.Grounded) {health : HealthRegistry}
    (sameIds : health.ids = cluster.health.ids) :
    ({ cluster with health := health } : Cluster Client).Grounded :=
  ⟨grounded.admits, grounded.recovery_eq, sameIds ▸ grounded.tracked⟩

theorem updateNodes (grounded : cluster.Grounded) (created : Instant)
    (nodes : List (Handle Client)) : (cluster.updateNodes created nodes).1.Grounded := by
  by_cases admitted : cluster.blueprint.Admits nodes
  · rw [updateNodes_of_admits cluster created nodes admitted]
    exact ⟨admitted, rfl, grounded.tracked_healthFor created admitted.distinct⟩
  · obtain ⟨failure, -, unchanged⟩ := updateNodes_of_not_admits cluster created nodes admitted
    rw [unchanged]
    exact grounded

theorem rebalanced (grounded : cluster.Grounded) : cluster.rebalance.1.Grounded := by
  rw [grounded.rebalance]
  exact ⟨grounded.admits, grounded.recovery_eq, grounded.tracked⟩

theorem evaluateHealth (grounded : cluster.Grounded) (now : Instant) :
    (cluster.evaluateHealth now).1.Grounded := by
  have judged := grounded.of_ids (cluster.health.ids_evaluateAll now)
  unfold Cluster.evaluateHealth
  cases outcome : cluster.health.evaluateAll now with
  | mk health evaluated =>
      rw [outcome] at judged
      cases evaluated with
      | error overflow => exact judged
      | ok transitions =>
          dsimp only
          split
          · exact judged
          · exact judged.rebalanced

theorem perform (grounded : cluster.Grounded) (operation : Operation Client) :
    (cluster.perform operation).1.Grounded := by
  cases operation with
  | updateNodes created nodes => exact grounded.updateNodes created nodes
  | rebalance => exact grounded.rebalanced
  | evaluateHealth now => exact grounded.evaluateHealth now
  | node key => exact grounded
  | quorum key => exact grounded
  | probes key now => exact grounded.of_ids (ids_claimProbes now cluster.health _)
  | recoveryQuorum key now => exact grounded.of_ids (ids_claimProbes now cluster.health _)
  | resolve key now => exact grounded.of_ids (ids_claimProbes now cluster.health _)
  | record id error => exact grounded.of_ids (cluster.health.ids_modify id _)
  | recordTestRequest id error => exact grounded.of_ids (cluster.health.ids_modify id _)

theorem reaches {first : Cluster Client} (grounded : first.Grounded)
    (reached : Reaches first cluster) : cluster.Grounded := by
  induction reached with
  | start => exact grounded
  | perform reached operation ih => exact ih.perform operation
  | records reached entries sameIds ih => exact ih.of_ids sameIds

end Grounded

structure Replaced (cluster : Cluster Client) (created : Instant) (nodes : List (Handle Client))
    (after : Cluster Client) : Prop where
  nodes_eq : after.nodes = nodes
  recovery_built : cluster.blueprint.build nodes = .ok after.recovery
  working_built : cluster.blueprint.build (inRing after.health nodes) = .ok after.working
  tracked : after.health.ids.Perm (nodes.map Handle.id)
  kept : ∀ id, id ∈ cluster.nodes.map Handle.id → id ∈ nodes.map Handle.id →
    ∃ record, cluster.health.find? id = some record ∧ after.health.find? id = some record
  fresh : ∀ id, id ∉ cluster.nodes.map Handle.id → id ∈ nodes.map Handle.id →
    after.health.find? id =
      some (HealthRecord.fresh cluster.health.policy.probeInterval created)
  out : ∀ id, cluster.health.isInRing id = false → id ∉ after.working.ids

theorem Grounded.replaced {cluster : Cluster Client} (grounded : cluster.Grounded)
    (created : Instant) {nodes : List (Handle Client)}
    (admitted : cluster.blueprint.Admits nodes) :
    cluster.Replaced created nodes (cluster.updateNodes created nodes).1 := by
  rw [updateNodes_of_admits cluster created nodes admitted]
  have records (id : NodeId) := cluster.find?_healthFor created nodes id
  refine
    { nodes_eq := rfl
      recovery_built := admitted.build
      working_built := (admitted.sublist List.filter_sublist).build
      tracked := grounded.tracked_healthFor created admitted.distinct
      kept := ?_
      fresh := ?_
      out := ?_ }
  · intro id present listed
    obtain ⟨record, found⟩ := Option.isSome_iff_exists.mp
      ((cluster.health.find?_isSome_iff id).mpr (grounded.tracked.mem_iff.mpr present))
    refine ⟨record, found, (records id).trans ?_⟩
    rw [if_pos listed, found]
    rfl
  · intro id absent listed
    have unknown : cluster.health.find? id = none := by
      rw [← Option.not_isSome_iff_eq_none, HealthRegistry.find?_isSome_iff]
      exact fun tracked => absent (grounded.tracked.mem_iff.mp tracked)
    refine (records id).trans ?_
    rw [if_pos listed, unknown]
    rfl
  · intro id excluded present
    obtain ⟨node, working, rfl⟩ := List.mem_map.mp present
    obtain ⟨listed, healthy⟩ := List.mem_filter.mp working
    rw [HealthRegistry.isInRing_eq] at excluded
    rw [HealthRegistry.isInRing_eq, records node.id,
      if_pos (List.mem_map_of_mem listed)] at healthy
    cases found : cluster.health.find? node.id with
    | none =>
        rw [found] at excluded
        cases excluded
    | some record =>
        rw [found] at excluded healthy
        exact absurd healthy (ne_true_of_eq_false excluded)

/-- Replacing the nodes fails exactly when no ring can be built over the new ones, by their number
or by the first id that comes again, or at an overflow; then the cluster is left as it was.
Otherwise the nodes are replaced. -/
theorem replaced_of_reaches {partitioner : Partitioner} {settings : Settings} {begun : Instant}
    {nodes : List (Handle Client)} {first cluster : Cluster Client}
    (success : create partitioner settings begun nodes = .ok first)
    (reached : Reaches first cluster) (created : Instant) (others : List (Handle Client)) :
    (∀ failure, (cluster.updateNodes created others).2 = .error failure →
        (cluster.updateNodes created others).1 = cluster) ∧
      (∀ reason, (cluster.updateNodes created others).2 = .error (.refused reason) ↔
        Blueprint.Refused others reason) ∧
      ((cluster.updateNodes created others).2 = .ok () ↔ cluster.blueprint.Admits others) ∧
      ((cluster.updateNodes created others).2 = .ok () →
        cluster.Replaced created others (cluster.updateNodes created others).1) := by
  have grounded := (consistent_of_create success).toGrounded.reaches reached
  have refusals (reason : Refusal) :
      cluster.blueprint.build others = .error (.refused reason) ↔
        Blueprint.Refused others reason :=
    Blueprint.build_eq_refused_iff grounded.admits.virtualNodes_pos grounded.admits.quorumSize_pos
      reason
  by_cases admitted : cluster.blueprint.Admits others
  · have replaced := grounded.replaced created admitted
    have done : (cluster.updateNodes created others).2 = .ok () := by
      rw [updateNodes_of_admits cluster created others admitted]
    refine ⟨?_, ?_, iff_of_true done admitted, fun _ => replaced⟩
    · intro failure failed
      rw [done] at failed
      cases failed
    · intro reason
      rw [← refusals, done, admitted.build]
      exact iff_of_false nofun nofun
  · obtain ⟨failure, unbuilt, unchanged⟩ :=
      updateNodes_of_not_admits cluster created others admitted
    rw [unchanged]
    refine ⟨fun _ _ => rfl, ?_, iff_of_false nofun admitted, nofun⟩
    intro reason
    rw [← refusals, unbuilt]
    simp only [Except.error.injEq]

/-- With one of its two nodes excluded, a cluster turns a list with two repeated ids down because of
the one that repeats first; in another list the excluded node meets a new one. -/
theorem replaced_beside_excluded :
    create (Blueprint.ofLengths 2 2).partitioner oneStrike 0 (Handle.named 0 ["ab", "c"]) =
        .ok pair ∧
      Reaches pair halved ∧
      halved.updateNodes 7 (Handle.named 2 ["d", "ab", "ab", "d"]) =
        (halved, .error (.refused (.duplicateNode "ab"))) ∧
      ∃ after, halved.updateNodes 7 (Handle.named 2 ["ab", "d"]) = (after, .ok ()) ∧
        after.recovery.ids = ["ab", "d"] ∧ "ab" ∉ after.working.ids ∧
        after.health.find? "ab" = halved.health.find? "ab" ∧
        after.health.find? "d" = some (HealthRecord.fresh 5000 7) := by
  obtain ⟨events, run⟩ := run_halved
  have reached := run.reaches
  refine ⟨create_pair, reached, ?_, ?_⟩
  · obtain ⟨untouched, refusals, -, -⟩ := replaced_of_reaches create_pair reached 7
      (Handle.named 2 ["d", "ab", "ab", "d"])
    have refused := (refusals (.duplicateNode "ab")).mpr
      (.repeated (by decide) "ab" ⟨["d", "ab"], ["d"], rfl, by decide, by decide⟩)
    exact Prod.ext (untouched _ refused) refused
  · obtain ⟨-, -, accepted, replaced⟩ := replaced_of_reaches create_pair reached 7
      (Handle.named 2 ["ab", "d"])
    have done := accepted.mpr ((Blueprint.obstacle_eq_none_iff _ _).mp (by decide))
    have outcome := replaced done
    refine ⟨(halved.updateNodes 7 (Handle.named 2 ["ab", "d"])).1, Prod.ext rfl done, ?_,
      outcome.out "ab" (by decide), ?_, outcome.fresh "d" (by decide) (by decide)⟩
    · obtain ⟨-, same⟩ := (Blueprint.build_eq_ok_iff _ _ _).mp outcome.recovery_built
      rw [← same]
      rfl
    · obtain ⟨record, before, after⟩ := outcome.kept "ab" (by decide) (by decide)
      exact after.trans before.symm

end QuorumRouting.Cluster
