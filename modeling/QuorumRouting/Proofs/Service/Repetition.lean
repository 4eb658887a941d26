import QuorumRouting.Proofs.Service.Rebuild

/-!
A list that comes again. A router that has taken a list in finds a handle for every instance of it
that counts, and no others, so that taking it in once more makes nobody new, leaves nobody out and
amounts to weighing the handles again. Handles are told apart by their serial numbers, which are
given out once; the weights of handles that stay are found by them.
-/

set_option autoImplicit false

namespace QuorumRouting

variable {Client : Type}

theorem find?_of_unique {Item : Type} {items : List Item} {fits : Item → Bool} {item : Item}
    (listed : item ∈ items) (here : fits item = true)
    (only : ∀ other, other ∈ items → fits other = true → other = item) :
    items.find? fits = some item := by
  obtain ⟨other, found⟩ := Option.isSome_iff_exists.mp (List.find?_isSome.mpr ⟨item, listed, here⟩)
  rw [found, only other (List.mem_of_find?_eq_some found) (List.find?_some found)]

/-! ### Records of nodes that stay -/

namespace HealthRegistry

theorem track_of_tracked {registry : HealthRegistry} {id : NodeId} (created : Instant)
    (tracked : id ∈ registry.ids) : registry.track created id = registry := by
  obtain ⟨record, found⟩ := Option.isSome_iff_exists.mp
    ((registry.find?_isSome_iff id).mpr tracked)
  unfold track
  rw [found]

theorem trackAll_of_tracked {registry : HealthRegistry} {ids : List NodeId} (created : Instant)
    (tracked : ∀ id, id ∈ ids → id ∈ registry.ids) : registry.trackAll created ids = registry := by
  unfold trackAll
  induction ids with
  | nil => rfl
  | cons id rest ih =>
      obtain ⟨first, others⟩ := List.forall_mem_cons.mp tracked
      rw [List.foldl_cons, track_of_tracked created first]
      exact ih others

theorem retain_of_listed {registry : HealthRegistry} {ids : List NodeId}
    (listed : ∀ id, id ∈ registry.ids → id ∈ ids) : registry.retain ids = registry := by
  have everybody : (registry.retain ids).entries = registry.entries := by
    apply List.filter_eq_self.mpr
    intro entry present
    exact List.contains_iff_mem.mpr (listed entry.1 (List.mem_map_of_mem present))
  exact congrArg (HealthRegistry.mk registry.policy) everybody

end HealthRegistry

/-- Replacing the nodes by themselves leaves their records alone. -/
theorem Cluster.Grounded.healthFor_nodes {cluster : Cluster Client} (grounded : cluster.Grounded)
    (created : Instant) : cluster.healthFor created cluster.nodes = cluster.health := by
  unfold Cluster.healthFor
  rw [HealthRegistry.trackAll_of_tracked created (fun id => grounded.tracked.mem_iff.mpr)]
  exact HealthRegistry.retain_of_listed (fun id => grounded.tracked.mem_iff.mp)

namespace Router

/-! ### Serial numbers -/

structure Numbered (router : Router Client) : Prop where
  issued : ∀ handle, handle ∈ router.cluster.nodes → handle.serial < router.made
  distinct : (router.cluster.nodes.map Handle.serial).Nodup

structure Issued (router : Router Client) (intake : Intake Client) : Prop where
  made_le : router.made ≤ intake.made
  issued : ∀ handle, handle ∈ intake.handles → handle.serial < intake.made
  origin : ∀ handle, handle ∈ intake.handles →
    handle ∈ router.cluster.nodes ∨ router.made ≤ handle.serial
  distinct : (intake.handles.map Handle.serial).Nodup

theorem nodup_serials_concat {handles : List (Handle Client)} {handle : Handle Client}
    (distinct : (handles.map Handle.serial).Nodup)
    (new : ∀ other, other ∈ handles → other.serial ≠ handle.serial) :
    ((handles ++ [handle]).map Handle.serial).Nodup := by
  rw [List.map_append, List.map_singleton, List.perm_append_comm.nodup_iff,
    List.singleton_append, List.nodup_cons]
  refine ⟨?_, distinct⟩
  intro present
  obtain ⟨other, listed, same⟩ := List.mem_map.mp present
  exact new other listed same

theorem Issued.received {router : Router Client} (numbered : router.Numbered)
    {intake after : Intake Client} {listing : Listing} (noted : Noted intake)
    (issued : router.Issued intake) (received : router.Received intake listing after) :
    router.Issued after := by
  cases received with
  | repeated | unreachable => exact ⟨issued.made_le, issued.issued, issued.origin, issued.distinct⟩
  | kept unseen handle current =>
      obtain ⟨present, same⟩ := current?_eq_some current
      have given := numbered.issued handle present
      refine ⟨issued.made_le, ?_, ?_, nodup_serials_concat issued.distinct ?_⟩
      · exact List.forall_mem_append.mpr ⟨issued.issued,
          List.forall_mem_singleton.mpr (Nat.lt_of_lt_of_le given issued.made_le)⟩
      · exact List.forall_mem_append.mpr ⟨issued.origin,
          List.forall_mem_singleton.mpr (.inl present)⟩
      · intro other listed equal
        rcases issued.origin other listed with old | new
        · -- Handles of the router with one serial number are one handle, whose id was noted.
          have one : other = handle := List.inj_on_of_nodup_map numbered.distinct old present equal
          have named : handle.id = listing.id := congrArg Prod.fst same
          exact unseen (named ▸ one ▸ noted.noted _ (List.mem_map_of_mem listed))
        · omega
  | created unseen unknown client made =>
      refine ⟨Nat.le_succ_of_le issued.made_le, ?_, ?_, nodup_serials_concat issued.distinct ?_⟩
      · exact List.forall_mem_append.mpr ⟨fun other listed =>
          Nat.lt_succ_of_lt (issued.issued other listed),
          List.forall_mem_singleton.mpr (Nat.lt_succ_self _)⟩
      · exact List.forall_mem_append.mpr ⟨issued.origin,
          List.forall_mem_singleton.mpr (.inr issued.made_le)⟩
      · intro other listed
        exact Nat.ne_of_lt (issued.issued other listed)

theorem issued_receiveAll {router : Router Client} (numbered : router.Numbered)
    (listings : List Listing) : router.Issued (router.receiveAll listings) := by
  induction listings using List.reverseRecOn with
  | nil =>
      exact ⟨Nat.le_refl _, List.forall_mem_nil _, List.forall_mem_nil _, List.nodup_nil⟩
  | append_singleton listings listing ih =>
      rw [receiveAll_concat]
      exact ih.received numbered (router.noted_receiveAll listings) (router.received _ listing)

theorem Numbered.following {router : Router Client} (numbered : router.Numbered) (now : Instant)
    (listings : List Listing) : (router.following now listings).Numbered := by
  have issued := issued_receiveAll numbered listings
  have perm := inIdOrder_perm (router.receiveAll listings).handles
  refine ⟨?_, (perm.map Handle.serial).nodup_iff.mpr issued.distinct⟩
  intro handle listed
  exact issued.issued handle (perm.mem_iff.mp listed)

section

variable {first router after : Router Client} {operation : Operation Client}
  {answer : Answer Client}

theorem Numbered.of_nodes (numbered : router.Numbered)
    (sameNodes : after.cluster.nodes = router.cluster.nodes) (grown : router.made ≤ after.made) :
    after.Numbered := by
  refine ⟨?_, sameNodes ▸ numbered.distinct⟩
  intro handle listed
  exact Nat.lt_of_lt_of_le (numbered.issued handle (sameNodes ▸ listed)) grown

theorem Numbered.effect (numbered : router.Numbered)
    (effect : router.Effect operation answer after) : after.Numbered := by
  cases effect with
  | taken now listings update admitted => exact numbered.following now listings
  | refused now listings failure unbuilt =>
      exact numbered.of_nodes rfl (issued_receiveAll numbered listings).made_le
  | maintained | rebalanced | weightSet | weightMissed =>
      exact numbered.of_nodes rfl (Nat.le_refl _)
  | served operation serves fits =>
      exact numbered.of_nodes (router.cluster.nodes_perform_of_servesCall serves).1 (Nat.le_refl _)

/-- Every handle that stays has the weight that it had. -/
theorem map_weightOf (distinct : (router.balancer.handles.map Handle.serial).Nodup) :
    router.balancer.handles.map
        (fun handle => ({ handle := handle, weight := router.weightOf handle } :
          WeightedHandle Client)) =
      router.balancer.entries := by
  unfold Balancer.handles
  rw [List.map_map]
  refine (List.map_congr_left ?_).trans (List.map_id _)
  intro entry listed
  unfold Balancer.handles at distinct
  rw [List.map_map] at distinct
  have found : router.balancer.entries.find?
      (fun other => other.handle.serial = entry.handle.serial) = some entry := by
    apply find?_of_unique listed (decide_eq_true rfl)
    intro other present same
    exact List.inj_on_of_nodup_map distinct present listed (of_decide_eq_true same)
  change ({ handle := entry.handle, weight := router.weightOf entry.handle } :
    WeightedHandle Client) = entry
  unfold weightOf
  rw [found]

/-! ### Taking a list in again -/

/-- A list is being taken in as it was before, but with nobody new. -/
structure Echoes (router : Router Client) (intake again : Intake Client) : Prop where
  seen_eq : again.seen = intake.seen
  handles_eq : again.handles = intake.handles
  added_eq : again.added = 0
  kept_eq : again.kept = again.handles.length
  made_eq : again.made = router.made

theorem current?_of_mem (distinct : (router.cluster.nodes.map Handle.id).Nodup)
    {listing : Listing} {handle : Handle Client} (present : handle ∈ router.cluster.nodes)
    (same : handle.site = listing.site) : router.current? listing = some handle := by
  have here : handle.id = listing.id ∧ handle.node.address = listing.address :=
    Prod.mk.inj same
  apply find?_of_unique present (decide_eq_true here)
  intro other listed matched
  have named : other.id = listing.id := (of_decide_eq_true matched).1
  exact List.inj_on_of_nodup_map distinct listed present (named.trans here.1.symm)

theorem Received.handles_grow {intake taken : Intake Client} {listing : Listing}
    (received : router.Received intake listing taken) : intake.handles <+: taken.handles := by
  cases received with
  | repeated | unreachable => exact List.prefix_refl _
  | kept | created => exact List.prefix_append _ _

theorem handles_grow_foldl (router : Router Client) (intake : Intake Client)
    (listings : List Listing) :
    intake.handles <+: (listings.foldl router.receive intake).handles := by
  induction listings generalizing intake with
  | nil => exact List.prefix_refl _
  | cons listing rest ih => exact (router.received intake listing).handles_grow.trans (ih _)

section

variable (steady : Steady router.createClient) (renewable : router.Renewable)
  (sameClients : after.createClient = router.createClient) (still : after.Renewable)
  (distinct : (after.cluster.nodes.map Handle.id).Nodup)

include steady renewable sameClients still distinct

theorem Echoes.received {intake again : Intake Client} (echoes : after.Echoes intake again)
    {listing : Listing}
    (arrived : ∀ handle, handle ∈ (router.receive intake listing).handles →
      handle ∈ after.cluster.nodes)
    {later : Intake Client} (received : after.Received again listing later) :
    after.Echoes (router.receive intake listing) later := by
  obtain ⟨sameSeen, sameHandles, added, kept, made⟩ := echoes
  by_cases seen : listing.id ∈ intake.seen
  · obtain ⟨seenAlike, handlesAlike⟩ := router.receive_of_seen seen
    cases received with
    | repeated => exact ⟨sameSeen.trans seenAlike.symm, sameHandles.trans handlesAlike.symm, added,
        kept, made⟩
    | kept unseen | unreachable unseen | created unseen => exact absurd (sameSeen ▸ seen) unseen
  · obtain ⟨noted, ⟨unmade, alike⟩ | ⟨reached, handle, same, -, taken⟩⟩ :=
      receive_of_unseen steady renewable seen
    · cases received with
      | repeated repeated => exact absurd (sameSeen ▸ repeated) seen
      | kept unseen handle current =>
          -- The handle's client could be made again, so the instance's could be as well.
          obtain ⟨present, same⟩ := current?_eq_some current
          have remade := still handle present
          rw [sameClients, steady handle.node listing.toNode (congrArg Prod.fst same)
            (congrArg Prod.snd same), unmade] at remade
          cases remade
      | unreachable =>
          exact ⟨(congrArg (List.cons listing.id) sameSeen).trans noted.symm,
            sameHandles.trans alike.symm, added, kept, made⟩
      | created unseen unknown client created =>
          rw [← sameClients, created] at unmade
          cases unmade
    · have present : handle ∈ after.cluster.nodes :=
        arrived handle (taken ▸ List.mem_append_right _ List.mem_cons_self)
      have found := current?_of_mem distinct present same
      cases received with
      | repeated repeated => exact absurd (sameSeen ▸ repeated) seen
      | kept unseen other current =>
          obtain rfl : handle = other := Option.some.inj (found.symm.trans current)
          refine ⟨(congrArg (List.cons listing.id) sameSeen).trans noted.symm, ?_, added, ?_, made⟩
          · rw [taken, sameHandles]
          · rw [List.length_append, List.length_singleton, kept]
      | unreachable unseen unknown | created unseen unknown =>
          rw [found] at unknown
          cases unknown

theorem Echoes.receiveAll (listings : List Listing)
    (arrived : ∀ handle, handle ∈ (router.receiveAll listings).handles →
      handle ∈ after.cluster.nodes) :
    after.Echoes (router.receiveAll listings) (after.receiveAll listings) := by
  have all (remaining : List Listing) (intake again : Intake Client)
      (echoes : after.Echoes intake again)
      (arrived : ∀ handle, handle ∈ (remaining.foldl router.receive intake).handles →
        handle ∈ after.cluster.nodes) :
      after.Echoes (remaining.foldl router.receive intake)
        (remaining.foldl after.receive again) := by
    induction remaining generalizing intake again with
    | nil => exact echoes
    | cons listing rest ih =>
        have soon : ∀ handle, handle ∈ (router.receive intake listing).handles →
            handle ∈ after.cluster.nodes :=
          fun handle taken => arrived handle ((router.handles_grow_foldl _ rest).subset taken)
        exact ih _ _ (echoes.received steady renewable sameClients still distinct soon
          (after.received again listing)) arrived
  exact all _ _ _ ⟨rfl, rfl, rfl, rfl, rfl⟩ arrived

end

/-- Taking the list in would find the nodes that are there, and nobody else. -/
structure Abreast (router : Router Client) (listings : List Listing) : Prop where
  incoming_eq : router.incoming listings = router.cluster.nodes
  added_eq : (router.receiveAll listings).added = 0
  kept_eq : (router.receiveAll listings).kept = router.cluster.nodes.length
  made_eq : (router.receiveAll listings).made = router.made

/-- A router that has taken a list in is abreast of it. -/
theorem abreast_following (steady : Steady first.createClient) (settled : first.Settled router)
    (now : Instant) (listings : List Listing)
    (admitted : router.cluster.blueprint.Admits (router.incoming listings)) :
    (router.following now listings).Abreast listings := by
  have followed : first.Settled (router.following now listings) :=
    settled.effect steady (.taken now listings (router.tally listings) admitted)
  have sameClients : (router.following now listings).createClient = router.createClient := rfl
  have echoes : (router.following now listings).Echoes (router.receiveAll listings)
      ((router.following now listings).receiveAll listings) :=
    Echoes.receiveAll (settled.createClient_eq ▸ steady) settled.renewable sameClients
      followed.renewable
      followed.consistent.admits.distinct listings
      (fun handle taken => (inIdOrder_perm _).mem_iff.mpr taken)
  refine ⟨congrArg inIdOrder echoes.handles_eq, echoes.added_eq, ?_, echoes.made_eq⟩
  rw [echoes.kept_eq, echoes.handles_eq]
  exact (inIdOrder_perm _).length_eq.symm

theorem receiveAll_congr (sameNodes : after.cluster.nodes = router.cluster.nodes)
    (sameClients : after.createClient = router.createClient) (sameMade : after.made = router.made)
    (listings : List Listing) : after.receiveAll listings = router.receiveAll listings := by
  have receive : after.receive = router.receive := by
    funext intake listing
    unfold Router.receive current?
    rw [sameNodes, sameClients]
  unfold receiveAll
  rw [receive, sameMade]

theorem Abreast.of_unmoved {listings : List Listing} (abreast : router.Abreast listings)
    (sameNodes : after.cluster.nodes = router.cluster.nodes)
    (sameClients : after.createClient = router.createClient)
    (sameMade : after.made = router.made) : after.Abreast listings := by
  have received := receiveAll_congr sameNodes sameClients sameMade listings
  refine ⟨?_, ?_, ?_, ?_⟩
  · unfold incoming
    rw [received, sameNodes]
    exact abreast.incoming_eq
  · rw [received]
    exact abreast.added_eq
  · rw [received, sameNodes]
    exact abreast.kept_eq
  · rw [received, sameMade]
    exact abreast.made_eq

/-- To follow a list that the router is abreast of is to weigh the handles again. -/
theorem Abreast.following_eq {listings : List Listing} (abreast : router.Abreast listings)
    (coherent : router.Coherent) (numbered : router.Numbered) (now : Instant) :
    router.following now listings = router.rebalance := by
  have records := coherent.consistent.toGrounded.healthFor_nodes now
  have weights : router.cluster.nodes.map
      (fun handle => ({ handle := handle, weight := router.weightOf handle } :
        WeightedHandle Client)) = router.balancer.entries := by
    rw [← coherent.handles_eq]
    exact map_weightOf (coherent.handles_eq ▸ numbered.distinct)
  unfold following
  dsimp only
  rw [abreast.incoming_eq, abreast.made_eq, records, weights, ← coherent.consistent.working_eq,
    ← coherent.consistent.recovery_eq]
  rfl

theorem Abreast.apply_eq {listings : List Listing} (abreast : router.Abreast listings)
    (coherent : router.Coherent) (numbered : router.Numbered) (now : Instant) :
    ∃ skipped, router.apply now listings =
      (router.rebalance,
        .ok { added := 0, removed := 0, kept := router.cluster.nodes.length,
              skipped := skipped }) := by
  have admitted : router.cluster.blueprint.Admits (router.incoming listings) :=
    abreast.incoming_eq ▸ coherent.consistent.admits
  rw [router.apply_eq_of_admits now listings admitted, abreast.following_eq coherent numbered]
  refine ⟨(router.receiveAll listings).skipped, ?_⟩
  unfold tally
  dsimp only
  rw [abreast.added_eq, abreast.kept_eq, Nat.sub_self]

end

end Router

end QuorumRouting
