import QuorumRouting.Proofs.Cluster.Replacement

/-!
Clusters that grow too large. Checked settings bound neither the number of virtual nodes nor what it
comes to for all nodes together, so a list that is not refused can still be too large for a ring, at
the start or at any later replacement. Nothing else makes a cluster overflow for its rings: a
working ring is never larger than the ring of all nodes, which was built before.
-/

set_option autoImplicit false

namespace QuorumRouting

theorem Settings.blueprint_pos_of_check {settings : Settings}
    (checked : settings.check = .ok settings) (partitioner : Partitioner) :
    0 < (settings.blueprint partitioner).virtualNodes ∧
      0 < (settings.blueprint partitioner).quorumSize := by
  have sound : settings.fault = none := by
    unfold check at checked
    cases found : settings.fault with
    | none => rfl
    | some reason =>
        rw [found] at checked
        cases checked
  unfold fault at sound
  dsimp only at sound
  split at sound
  · cases sound
  · rename_i quorum
    split at sound
    · cases sound
    · rename_i places
      have positive {word : UInt64} (nonzero : ¬ word = 0) : 0 < word.toNat :=
        Nat.pos_of_ne_zero (fun zero => nonzero (UInt64.toNat_inj.mp zero))
      exact ⟨positive places, positive quorum⟩

namespace Cluster

variable {Client : Type}

theorem blueprint_perform (cluster : Cluster Client) (operation : Operation Client) :
    (cluster.perform operation).1.blueprint = cluster.blueprint := by
  cases operation with
  | updateNodes created nodes =>
      change (cluster.updateNodes created nodes).1.blueprint = _
      by_cases admitted : cluster.blueprint.Admits nodes
      · rw [updateNodes_of_admits cluster created nodes admitted]
      · obtain ⟨failure, -, unchanged⟩ :=
          updateNodes_of_not_admits cluster created nodes admitted
        rw [unchanged]
  | rebalance => exact cluster.nodes_rebalance.2
  | evaluateHealth now => exact (cluster.nodes_evaluateHealth now).2
  | node | quorum | probes | recoveryQuorum | resolve | record | recordTestRequest => rfl

theorem Reaches.blueprint_eq {first cluster : Cluster Client} (reached : Reaches first cluster) :
    cluster.blueprint = first.blueprint := by
  induction reached with
  | start => rfl
  | perform reached operation ih => exact (blueprint_perform _ operation).trans ih
  | records reached entries sameIds ih => exact ih

/-- Whether or not a working ring is built after it, an evaluation ends as that of the records. -/
theorem Grounded.evaluateHealth_snd {cluster : Cluster Client} (grounded : cluster.Grounded)
    (now : Instant) :
    (cluster.evaluateHealth now).2 =
      (cluster.health.evaluateAll now).2.mapError Failure.overflowed := by
  have judged := grounded.of_ids (cluster.health.ids_evaluateAll now)
  unfold Cluster.evaluateHealth
  cases outcome : cluster.health.evaluateAll now with
  | mk health evaluated =>
      rw [outcome] at judged
      cases evaluated with
      | error overflow => rfl
      | ok transitions =>
          dsimp only
          split
          · rfl
          · rw [judged.rebalance]
            rfl

theorem updateNodes_eq_overflowed_iff {cluster : Cluster Client} (grounded : cluster.Grounded)
    (created : Instant) (others : List (Handle Client)) (cause : Overflow) :
    (cluster.updateNodes created others).2 = .error (.overflowed cause) ↔
      others.length ≤ Blueprint.largestNodeCount ∧ (others.map Handle.id).Nodup ∧
        cluster.blueprint.Excessive others.length cause := by
  rw [← Blueprint.build_eq_overflowed_iff grounded.admits.virtualNodes_pos
    grounded.admits.quorumSize_pos]
  by_cases admitted : cluster.blueprint.Admits others
  · rw [updateNodes_of_admits cluster created others admitted, admitted.build]
    exact iff_of_false nofun nofun
  · obtain ⟨failure, unbuilt, unchanged⟩ :=
      updateNodes_of_not_admits cluster created others admitted
    rw [unchanged, unbuilt]
    simp only [Except.error.injEq]

/-- Nodes that are not replaced leave the cluster as it was. -/
theorem updateNodes_of_error {cluster : Cluster Client} {created : Instant}
    {others : List (Handle Client)} {failure : Failure Refusal}
    (failed : (cluster.updateNodes created others).2 = .error failure) :
    (cluster.updateNodes created others).1 = cluster := by
  by_cases admitted : cluster.blueprint.Admits others
  · rw [updateNodes_of_admits cluster created others admitted] at failed
    cases failed
  · obtain ⟨cause, -, unchanged⟩ := updateNodes_of_not_admits cluster created others admitted
    rw [unchanged]

/-- Checked settings overflow for their rings in two places only, when a cluster is made and when
its nodes are replaced, and there exactly for those lists of distinct nodes, not too many for one
ring, that come to too many virtual nodes; a cluster that was made is left as it was. There are such
lists unless the settings ask for few virtual nodes. -/
theorem overflows_of_reaches (Client : Type) (partitioner : Partitioner) {settings : Settings}
    (checked : settings.check = .ok settings) :
    let blueprint := settings.blueprint partitioner
    (∀ begun (nodes : List (Handle Client)) cause,
      create partitioner settings begun nodes = .error (.overflowed cause) ↔
        nodes.length ≤ Blueprint.largestNodeCount ∧ (nodes.map Handle.id).Nodup ∧
          blueprint.Excessive nodes.length cause) ∧
    (∀ begun (nodes : List (Handle Client)) first cluster,
      create partitioner settings begun nodes = .ok first → Reaches first cluster →
        cluster.rebalance.2 = .ok () ∧
        (∀ now, (cluster.evaluateHealth now).2 =
          (cluster.health.evaluateAll now).2.mapError Failure.overflowed) ∧
        ∀ created others cause,
          ((cluster.updateNodes created others).2 = .error (.overflowed cause) ↔
            others.length ≤ Blueprint.largestNodeCount ∧ (others.map Handle.id).Nodup ∧
              blueprint.Excessive others.length cause) ∧
          ((cluster.updateNodes created others).2 = .error (.overflowed cause) →
            (cluster.updateNodes created others).1 = cluster)) ∧
    (settings.virtualNodes.toNat ≤ Blueprint.ampleVirtualNodes ↔
      ∀ count, count ≤ Blueprint.largestNodeCount → ∀ cause,
        ¬ blueprint.Excessive count cause) := by
  intro blueprint
  obtain ⟨virtualNodes_pos, quorumSize_pos⟩ := settings.blueprint_pos_of_check checked partitioner
  refine ⟨?_, ?_, blueprint.le_ampleVirtualNodes_iff⟩
  · intro begun nodes cause
    rw [← Blueprint.build_eq_overflowed_iff virtualNodes_pos quorumSize_pos,
      create_of_check partitioner checked]
    cases blueprint.build nodes with
    | error failure => simp only [Except.map, Except.error.injEq]
    | ok ring => exact iff_of_false nofun nofun
  · intro begun nodes first cluster success reached
    have grounded := (consistent_of_create success).toGrounded.reaches reached
    have sameBlueprint : cluster.blueprint = blueprint := by
      rw [reached.blueprint_eq, (create_eq_ok success).2]
    refine ⟨?_, grounded.evaluateHealth_snd, ?_⟩
    · rw [grounded.rebalance]
    · intro created others cause
      refine ⟨?_, updateNodes_of_error⟩
      rw [updateNodes_eq_overflowed_iff grounded, sameBlueprint]

def dense (virtualNodes : UInt64) : Settings :=
  { Settings.usual with virtualNodes := virtualNodes }

/-- One node has room for its virtual nodes, but a second one is one too many. -/
theorem overflows_beside_second :
    let settings := dense 288230376151711744
    let partitioner := (Blueprint.ofLengths 2 2).partitioner
    settings.check = .ok settings ∧
      ∃ first, create partitioner settings 0 (Handle.named 0 ["ab"]) = .ok first ∧
        first.updateNodes 7 (Handle.named 1 ["ab", "c"]) = (first, .error (.overflowed .capacity)) ∧
        first.rebalance.2 = .ok () := by
  have checked : (dense 288230376151711744).check = .ok (dense 288230376151711744) := rfl
  have admitted :
      ((dense 288230376151711744).blueprint (Blueprint.ofLengths 2 2).partitioner).Admits
        (Handle.named 0 ["ab"]) :=
    (Blueprint.obstacle_eq_none_iff _ _).mp (by decide)
  intro settings partitioner
  have success := create_of_check partitioner checked 0 (Handle.named 0 ["ab"])
  rw [admitted.build] at success
  obtain ⟨-, later, -⟩ := overflows_of_reaches Unit partitioner checked
  obtain ⟨rebalanced, -, replaced⟩ := later 0 _ _ _ success .start
  obtain ⟨overflows, unchanged⟩ := replaced 7 (Handle.named 1 ["ab", "c"]) .capacity
  have overflowed := overflows.mpr
    ⟨by decide, by decide, .capacity (by decide) (by decide)⟩
  exact ⟨checked, _, success, Prod.ext (unchanged overflowed) overflowed, rebalanced⟩

/-- Settings that pass the check, and a single node that is too many. -/
theorem checked_settings_overflow :
    let settings := dense 576460752303423488
    let nodes := Handle.named 0 ["a"]
    settings.check = .ok settings ∧ nodes.length ≤ Blueprint.largestNodeCount ∧
      create (Blueprint.ofLengths 2 2).partitioner settings 0 nodes =
        .error (.overflowed .capacity) :=
  ⟨rfl, by decide, rfl⟩

end Cluster

end QuorumRouting
