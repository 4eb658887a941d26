import QuorumRouting.Proofs.Service.Repetition

/-!
Courses of a router. A course is less tame than a run: it goes on after an overflow, windows may be
closed past the router, health records may change in any way, and from one operation to the next
clients may be made in another manner. Nodes change in one way only, by a list that is taken in. So
a ring can be built over them at any time, they are in strict order of their ids, the balancer has
the same ones, and each of them has a serial number of its own.
-/

set_option autoImplicit false

namespace QuorumRouting

variable {Client : Type}

namespace Cluster

/-- Only a replacement moves nodes. -/
theorem nodes_perform (cluster : Cluster Client) {operation : Operation Client}
    (spared : ∀ created nodes, operation ≠ .updateNodes created nodes) :
    (cluster.perform operation).1.nodes = cluster.nodes ∧
      (cluster.perform operation).1.blueprint = cluster.blueprint := by
  cases operation with
  | updateNodes created nodes => exact absurd rfl (spared created nodes)
  | rebalance => exact cluster.nodes_rebalance
  | evaluateHealth now => exact cluster.nodes_evaluateHealth now
  | node | quorum | probes | recoveryQuorum | resolve | record | recordTestRequest =>
      exact cluster.nodes_perform_of_servesCall rfl

end Cluster

namespace Router

/-- The courses from a first router, with the operations and their answers in the order of time. How
clients are made need not change within a list, because no id is asked for twice there. -/
inductive Course (first : Router Client) :
    List (Operation Client × Answer Client) → Router Client → Prop where
  | start : Course first [] first
  | step {events : List (Operation Client × Answer Client)} {router : Router Client}
      (course : Course first events router) (operation : Operation Client)
      (spared : ∀ created nodes, operation ≠ .serve (.updateNodes created nodes)) :
      Course first (events ++ [(operation, (router.perform operation).2)])
        (router.perform operation).1
  | equip {events : List (Operation Client × Answer Client)} {router : Router Client}
      (course : Course first events router) (createClient : Node → Except ServiceError Client) :
      Course first events { router with createClient := createClient }
  | records {events : List (Operation Client × Answer Client)} {router : Router Client}
      (course : Course first events router) (health : HealthRegistry) :
      Course first events { router with cluster := { router.cluster with health := health } }

theorem Run.course {first router : Router Client}
    {events : List (Operation Client × Answer Client)} (run : Run first events router) :
    Course first events router := by
  induction run with
  | start => exact .start
  | step run operation own fits ih =>
      refine ih.step operation ?_
      rintro created nodes rfl
      cases own

/-! ### Steps -/

structure Unmoved (router after : Router Client) : Prop where
  nodes_eq : after.cluster.nodes = router.cluster.nodes
  blueprint_eq : after.cluster.blueprint = router.cluster.blueprint
  handles_eq : after.balancer.handles = router.balancer.handles
  made_le : router.made ≤ after.made

inductive Stride (router : Router Client) :
    Operation Client × Answer Client → Router Client → Prop where
  | taken (now : Instant) (listings : List Listing)
      (admitted : router.cluster.blueprint.Admits (router.incoming listings)) :
      Stride router (.apply now listings, .ok (.updated (router.tally listings)))
        (router.following now listings)
  | quiet {event : Operation Client × Answer Client} {after : Router Client}
      (none : applied? event = none) (unmoved : router.Unmoved after) : Stride router event after

theorem Received.made_le {router : Router Client} {intake after : Intake Client} {listing : Listing}
    (received : router.Received intake listing after) : intake.made ≤ after.made := by
  cases received with
  | repeated | kept | unreachable => exact Nat.le_refl _
  | created => exact Nat.le_succ _

theorem made_le_receiveAll (router : Router Client) (listings : List Listing) :
    router.made ≤ (router.receiveAll listings).made := by
  induction listings using List.reverseRecOn with
  | nil => exact Nat.le_refl _
  | append_singleton listings listing ih =>
      rw [receiveAll_concat]
      exact ih.trans (router.received _ listing).made_le

theorem unmoved_runMaintenance (router : Router Client) (now : Instant) :
    router.Unmoved (router.runMaintenance now).1 := by
  obtain ⟨sameNodes, sameBlueprint⟩ := router.cluster.nodes_evaluateHealth now
  unfold runMaintenance
  cases judged : router.cluster.evaluateHealth now with
  | mk cluster result =>
      rw [judged] at sameNodes sameBlueprint
      cases result with
      | error failure => exact ⟨sameNodes, sameBlueprint, rfl, Nat.le_refl _⟩
      | ok transitions => exact ⟨sameNodes, sameBlueprint, rfl, Nat.le_refl _⟩

theorem unmoved_setWeight? (router : Router Client) (position : Nat) (weight : Float) :
    router.Unmoved ((router.setWeight? position weight).getD router) := by
  unfold Router.setWeight?
  cases set : router.balancer.setWeight? position weight with
  | none => exact ⟨rfl, rfl, rfl, Nat.le_refl _⟩
  | some balancer =>
      exact ⟨rfl, rfl, router.balancer.handles_setWeight? position weight set, Nat.le_refl _⟩

theorem stride_of_perform (router : Router Client) (operation : Operation Client)
    (spared : ∀ created nodes, operation ≠ .serve (.updateNodes created nodes)) :
    router.Stride (operation, (router.perform operation).2) (router.perform operation).1 := by
  cases operation with
  | apply now listings =>
      change router.Stride (_, (router.apply now listings).2.map .updated)
        (router.apply now listings).1
      by_cases admitted : router.cluster.blueprint.Admits (router.incoming listings)
      · rw [router.apply_eq_of_admits now listings admitted]
        exact .taken now listings admitted
      · obtain ⟨failure, -, refused⟩ := router.apply_of_not_admits now listings admitted
        rw [refused]
        exact .quiet rfl ⟨rfl, rfl, rfl, router.made_le_receiveAll listings⟩
  | runMaintenance now => exact .quiet rfl (router.unmoved_runMaintenance now)
  | rebalance => exact .quiet rfl ⟨rfl, rfl, rfl, Nat.le_refl _⟩
  | setWeight position weight => exact .quiet rfl (router.unmoved_setWeight? position weight)
  | serve operation =>
      obtain ⟨sameNodes, sameBlueprint⟩ := router.cluster.nodes_perform
        (fun created nodes same => spared created nodes (congrArg Operation.serve same))
      exact .quiet rfl ⟨sameNodes, sameBlueprint, rfl, Nat.le_refl _⟩

/-! ### What every course keeps -/

structure Tidy (router : Router Client) : Prop where
  admits : router.cluster.blueprint.Admits router.cluster.nodes
  increasing : (router.cluster.nodes.map Handle.id).Pairwise (· < ·)
  handles_eq : router.balancer.handles = router.cluster.nodes
  numbered : router.Numbered

section

variable {first router after : Router Client} {event : Operation Client × Answer Client}
  {events : List (Operation Client × Answer Client)}

theorem Tidy.of_unmoved (tidy : router.Tidy) (unmoved : router.Unmoved after) : after.Tidy := by
  obtain ⟨sameNodes, sameBlueprint, sameHandles, grown⟩ := unmoved
  refine ⟨?_, sameNodes ▸ tidy.increasing, ?_, tidy.numbered.of_nodes sameNodes grown⟩
  · rw [sameNodes, sameBlueprint]
    exact tidy.admits
  · rw [sameNodes, sameHandles]
    exact tidy.handles_eq

theorem Tidy.stride (tidy : router.Tidy) (stride : router.Stride event after) : after.Tidy := by
  cases stride with
  | taken now listings admitted =>
      exact ⟨admitted, inIdOrder_increasing (router.noted_receiveAll listings).distinct,
        router.handles_following now listings, tidy.numbered.following now listings⟩
  | quiet none unmoved => exact tidy.of_unmoved unmoved

theorem Tidy.course (tidy : first.Tidy) (course : Course first events router) : router.Tidy := by
  induction course with
  | start => exact tidy
  | step course operation spared ih => exact ih.stride (stride_of_perform _ operation spared)
  | equip course createClient ih => exact ih.of_unmoved ⟨rfl, rfl, rfl, Nat.le_refl _⟩
  | records course health ih => exact ih.of_unmoved ⟨rfl, rfl, rfl, Nat.le_refl _⟩

end

theorem tidy_of_create {partitioner : Partitioner} {service : String} {settings : Settings}
    {createClient : Node → Except ServiceError Client} {created : Instant}
    {router : Router Client}
    (success : create partitioner service settings createClient created = .ok router) :
    router.Tidy := by
  obtain ⟨made, -, empty, -⟩ := create_eq_ok success
  have coherent := coherent_of_create success
  refine ⟨coherent.consistent.admits, ?_, coherent.handles_eq, ?_, ?_⟩
  · rw [empty]
    exact List.Pairwise.nil
  · rw [empty]
    exact List.forall_mem_nil _
  · rw [empty]
    exact List.nodup_nil

end Router

end QuorumRouting
