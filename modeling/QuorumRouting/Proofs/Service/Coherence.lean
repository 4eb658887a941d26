import QuorumRouting.Proofs.Balancer.Weighing
import QuorumRouting.Proofs.Cluster.Consistency
import QuorumRouting.Proofs.Service.Run

/-!
What each operation of a router can come to. There are few ways, and a router that has gone any of
them is known in full, which is all that laws about runs need. The first of these laws is here: the
cluster and the balancer share their handles throughout.
-/

set_option autoImplicit false

namespace QuorumRouting

variable {Client : Type}

namespace Cluster

/-- Serving calls moves neither the nodes nor the rings. -/
theorem nodes_perform_of_servesCall (cluster : Cluster Client) {operation : Operation Client}
    (serves : operation.servesCall = true) :
    (cluster.perform operation).1.nodes = cluster.nodes ∧
      (cluster.perform operation).1.blueprint = cluster.blueprint := by
  cases operation with
  | updateNodes created nodes => cases serves
  | rebalance => cases serves
  | evaluateHealth now => cases serves
  | node key => exact ⟨rfl, rfl⟩
  | quorum key => exact ⟨rfl, rfl⟩
  | probes key now => exact ⟨rfl, rfl⟩
  | recoveryQuorum key now => exact ⟨rfl, rfl⟩
  | resolve key now => exact ⟨rfl, rfl⟩
  | record id error => exact ⟨rfl, rfl⟩
  | recordTestRequest id error => exact ⟨rfl, rfl⟩

end Cluster

namespace Router

def incoming (router : Router Client) (listings : List Listing) : List (Handle Client) :=
  inIdOrder (router.receiveAll listings).handles

def following (router : Router Client) (now : Instant) (listings : List Listing) :
    Router Client :=
  let nodes := router.incoming listings
  let health := router.cluster.healthFor now nodes
  { router with
    cluster :=
      { router.cluster with
        health := health
        nodes := nodes
        working := router.cluster.blueprint.ring (Cluster.inRing health nodes)
        recovery := router.cluster.blueprint.ring nodes }
    balancer := Balancer.make
      (nodes.map (fun handle => { handle := handle, weight := router.weightOf handle }))
      (weigh health)
    made := (router.receiveAll listings).made }

theorem handles_following (router : Router Client) (now : Instant) (listings : List Listing) :
    (router.following now listings).balancer.handles = router.incoming listings := by
  unfold following Balancer.handles Balancer.make
  dsimp only
  rw [List.map_map]
  exact List.map_id _

def tally (router : Router Client) (listings : List Listing) : RouterUpdate :=
  let intake := router.receiveAll listings
  { added := intake.added
    removed := router.cluster.nodes.length - intake.kept
    kept := intake.kept
    skipped := intake.skipped }

def maintained (router : Router Client) (now : Instant) : Router Client :=
  let health := (router.cluster.health.evaluateAll now).1
  { router with
    cluster :=
      { router.cluster with
        health := health
        working := router.cluster.blueprint.ring (Cluster.inRing health router.cluster.nodes) }
    balancer := router.balancer.rebalance (weigh health) }

inductive Effect (router : Router Client) :
    Operation Client → Answer Client → Router Client → Prop where
  | taken (now : Instant) (listings : List Listing) (update : RouterUpdate)
      (admitted : router.cluster.blueprint.Admits (router.incoming listings)) :
      Effect router (.apply now listings) (.ok (.updated update)) (router.following now listings)
  | refused (now : Instant) (listings : List Listing) (failure : Failure Refusal)
      (unbuilt : router.cluster.blueprint.build (router.incoming listings) = .error failure) :
      Effect router (.apply now listings) (.error failure)
        { router with made := (router.receiveAll listings).made }
  | maintained (now : Instant) (transitions : List (NodeId × Transition))
      (evaluated : (router.cluster.health.evaluateAll now).2 = .ok transitions) :
      Effect router (.runMaintenance now) (.ok (.transitions transitions)) (router.maintained now)
  | rebalanced : Effect router .rebalance (.ok .done) router.rebalance
  | weightSet (position : Nat) (weight : Float) (balancer : Balancer Client)
      (set : router.balancer.setWeight? position weight = some balancer) :
      Effect router (.setWeight position weight) (.ok .done) { router with balancer := balancer }
  | weightMissed (position : Nat) (weight : Float) :
      Effect router (.setWeight position weight) (.ok .done) router
  | served (operation : Cluster.Operation Client) (serves : operation.servesCall = true)
      (fits : (router.cluster.perform operation).2 ≠ .error (.overflowed .sum)) :
      Effect router (.serve operation) ((router.cluster.perform operation).2.map .served)
        { router with cluster := (router.cluster.perform operation).1 }

theorem apply_eq_of_admits (router : Router Client) (now : Instant) (listings : List Listing)
    (admitted : router.cluster.blueprint.Admits (router.incoming listings)) :
    router.apply now listings = (router.following now listings, .ok (router.tally listings)) := by
  have updated := router.cluster.updateNodes_of_admits now _ admitted
  unfold incoming at updated
  unfold apply
  dsimp only
  rw [updated]
  rfl

theorem apply_of_admits (router : Router Client) (now : Instant) (listings : List Listing)
    (admitted : router.cluster.blueprint.Admits (router.incoming listings)) :
    ∃ update, router.apply now listings = (router.following now listings, .ok update) :=
  ⟨_, router.apply_eq_of_admits now listings admitted⟩

theorem apply_of_not_admits (router : Router Client) (now : Instant) (listings : List Listing)
    (refused : ¬ router.cluster.blueprint.Admits (router.incoming listings)) :
    ∃ failure, router.cluster.blueprint.build (router.incoming listings) = .error failure ∧
      router.apply now listings =
        ({ router with made := (router.receiveAll listings).made }, .error failure) := by
  obtain ⟨failure, unbuilt, kept⟩ := router.cluster.updateNodes_of_not_admits now _ refused
  unfold incoming at kept
  refine ⟨failure, unbuilt, ?_⟩
  unfold apply
  dsimp only
  rw [kept]

theorem runMaintenance_of_ok {router : Router Client} (consistent : router.cluster.Consistent)
    {now : Instant} {transitions : List (NodeId × Transition)}
    (evaluated : (router.cluster.health.evaluateAll now).2 = .ok transitions) :
    router.runMaintenance now = (router.maintained now, .ok transitions) := by
  unfold runMaintenance
  rw [consistent.evaluateHealth_eq now transitions evaluated]
  rfl

theorem effect_of_apply (router : Router Client) (now : Instant) (listings : List Listing) :
    router.Effect (.apply now listings) ((router.apply now listings).2.map .updated)
      (router.apply now listings).1 := by
  by_cases admitted : router.cluster.blueprint.Admits (router.incoming listings)
  · rw [router.apply_eq_of_admits now listings admitted]
    exact .taken now listings (router.tally listings) admitted
  · obtain ⟨failure, unbuilt, applied⟩ := router.apply_of_not_admits now listings admitted
    rw [applied]
    exact .refused now listings failure unbuilt

/-- There are no other ways. -/
theorem effect_of_perform {router : Router Client} (consistent : router.cluster.Consistent)
    (operation : Operation Client) (own : operation.isOwn = true)
    (fits : (router.perform operation).2 ≠ .error (.overflowed .sum)) :
    router.Effect operation (router.perform operation).2 (router.perform operation).1 := by
  cases operation with
  | apply now listings => exact router.effect_of_apply now listings
  | runMaintenance now =>
      change router.Effect _ ((router.runMaintenance now).2.map .transitions)
        (router.runMaintenance now).1
      cases evaluated : (router.cluster.health.evaluateAll now).2 with
      | error overflow =>
          have broken := router.cluster.evaluateHealth_of_overflow now overflow evaluated
          refine absurd ?_ fits
          change (router.runMaintenance now).2.map Reply.transitions = _
          unfold runMaintenance
          dsimp only
          rw [broken]
          rfl
      | ok transitions =>
          rw [runMaintenance_of_ok consistent evaluated]
          exact .maintained now transitions evaluated
  | rebalance => exact .rebalanced
  | setWeight position weight =>
      change router.Effect _ (.ok .done) ((router.setWeight? position weight).getD router)
      unfold Router.setWeight?
      cases set : router.balancer.setWeight? position weight with
      | none => exact .weightMissed position weight
      | some balancer => exact .weightSet position weight balancer set
  | serve operation =>
      exact .served operation own (fun broken =>
        fits (congrArg (Except.map Reply.served) broken))

/-! ### Runs -/

section

variable {first router after : Router Client} {events : List (Operation Client × Answer Client)}

theorem Run.step_of_perform (run : Run first events router) {operation : Operation Client}
    {answer : Answer Client} (own : operation.isOwn = true)
    (performed : router.perform operation = (after, answer))
    (fits : answer ≠ .error (.overflowed .sum)) :
    Run first (events ++ [(operation, answer)]) after := by
  have step := run.step operation own (performed ▸ fits)
  rw [performed] at step
  exact step

theorem Run.take (run : Run first events router) (now : Instant) (listings : List Listing)
    (admitted : router.cluster.blueprint.Admits (router.incoming listings)) :
    ∃ update, Run first (events ++ [(.apply now listings, .ok (.updated update))])
      (router.following now listings) := by
  obtain ⟨update, applied⟩ := router.apply_of_admits now listings admitted
  refine ⟨update, run.step_of_perform rfl ?_ nofun⟩
  change ((router.apply now listings).1, (router.apply now listings).2.map Reply.updated) = _
  rw [applied]
  rfl

theorem Run.maintain (run : Run first events router) (consistent : router.cluster.Consistent)
    {now : Instant} {transitions : List (NodeId × Transition)}
    (evaluated : (router.cluster.health.evaluateAll now).2 = .ok transitions) :
    Run first (events ++ [(.runMaintenance now, .ok (.transitions transitions))])
      (router.maintained now) := by
  refine run.step_of_perform rfl ?_ nofun
  change ((router.runMaintenance now).1,
    (router.runMaintenance now).2.map Reply.transitions) = _
  rw [runMaintenance_of_ok consistent evaluated]
  rfl

end

structure Coherent (router : Router Client) : Prop where
  consistent : router.cluster.Consistent
  handles_eq : router.balancer.handles = router.cluster.nodes

section

variable {router after : Router Client} {operation : Operation Client} {answer : Answer Client}

theorem Coherent.effect (coherent : router.Coherent)
    (effect : router.Effect operation answer after) : after.Coherent := by
  cases effect with
  | taken now listings update admitted =>
      have updated := coherent.consistent.updateNodes now (router.incoming listings)
      rw [router.cluster.updateNodes_of_admits now _ admitted] at updated
      exact ⟨updated, router.handles_following now listings⟩
  | refused now listings failure unbuilt => exact ⟨coherent.consistent, coherent.handles_eq⟩
  | maintained now transitions evaluated =>
      have judged := coherent.consistent.evaluateHealth now transitions evaluated
      rw [coherent.consistent.evaluateHealth_eq now transitions evaluated] at judged
      exact ⟨judged, coherent.handles_eq⟩
  | rebalanced => exact ⟨coherent.consistent, coherent.handles_eq⟩
  | weightSet position weight balancer set =>
      exact ⟨coherent.consistent,
        (router.balancer.handles_setWeight? position weight set).trans coherent.handles_eq⟩
  | weightMissed position weight => exact coherent
  | served operation serves fits =>
      obtain ⟨sameNodes, -⟩ := router.cluster.nodes_perform_of_servesCall serves
      exact ⟨coherent.consistent.perform operation fits, coherent.handles_eq.trans sameNodes.symm⟩

theorem Coherent.run {first : Router Client} {events : List (Operation Client × Answer Client)}
    (coherent : first.Coherent) (run : Run first events router) : router.Coherent := by
  induction run with
  | start => exact coherent
  | step run operation own fits ih =>
      exact ih.effect (effect_of_perform ih.consistent operation own fits)

end

theorem create_eq_ok {partitioner : Partitioner} {service : String} {settings : Settings}
    {createClient : Node → Except ServiceError Client} {created : Instant}
    {router : Router Client}
    (success : create partitioner service settings createClient created = .ok router) :
    Cluster.create partitioner settings created [] = .ok router.cluster ∧
      router.createClient = createClient ∧ router.cluster.nodes = [] ∧
      router.balancer = Balancer.make [] (weigh router.cluster.health) := by
  unfold create at success
  cases made : Cluster.create partitioner settings created ([] : List (Handle Client)) with
  | error failure =>
      rw [made] at success
      cases success
  | ok cluster =>
      rw [made] at success
      obtain rfl := Except.ok.inj success
      exact ⟨rfl, rfl, congrArg Cluster.nodes (Cluster.create_eq_ok made).2, rfl⟩

theorem coherent_of_create {partitioner : Partitioner} {service : String} {settings : Settings}
    {createClient : Node → Except ServiceError Client} {created : Instant}
    {router : Router Client}
    (success : create partitioner service settings createClient created = .ok router) :
    router.Coherent := by
  obtain ⟨made, -, empty, unbalanced⟩ := create_eq_ok success
  exact ⟨Cluster.consistent_of_create made, (congrArg Balancer.handles unbalanced).trans empty.symm⟩

end Router

end QuorumRouting
