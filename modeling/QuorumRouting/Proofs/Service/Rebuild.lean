import QuorumRouting.Proofs.Ring.Naming
import QuorumRouting.Proofs.Service.Coherence
import QuorumRouting.Proofs.Service.Intake

/-!
The past of a router does not show in where its nodes are. After any run its handles are in strict
order of their ids, its balancer and its cluster share them, and when the list last taken in names
every id once, a new router that is given this list alone, in any order, has the same nodes and the
same recovery ring. Handles that were kept from earlier lists are where new ones would be, and
sorting takes away the order in which the list named them.
-/

set_option autoImplicit false

namespace QuorumRouting

variable {Client : Type}

namespace Router

theorem distinct_incoming (router : Router Client) (listings : List Listing) :
    ((router.incoming listings).map Handle.id).Nodup :=
  ((inIdOrder_perm _).map Handle.id).nodup_iff.mpr (router.noted_receiveAll listings).distinct

structure Settled (first router : Router Client) : Prop extends Coherent router where
  createClient_eq : router.createClient = first.createClient
  blueprint_eq : router.cluster.blueprint = first.cluster.blueprint
  increasing : (router.cluster.nodes.map Handle.id).Pairwise (· < ·)
  renewable : router.Renewable

section

variable {first router after : Router Client} {operation : Operation Client}
  {answer : Answer Client} {events : List (Operation Client × Answer Client)}
  (steady : Steady first.createClient)

include steady

theorem Settled.orderly (settled : first.Settled router) (listings : List Listing) :
    router.Orderly (router.receiveAll listings) :=
  Orderly.receiveAll (settled.createClient_eq ▸ steady) settled.renewable listings

theorem Settled.effect (settled : first.Settled router)
    (effect : router.Effect operation answer after) : first.Settled after := by
  have coherent := settled.toCoherent.effect effect
  cases effect with
  | taken now listings update admitted =>
      have orderly := settled.orderly steady listings
      refine ⟨coherent, settled.createClient_eq, settled.blueprint_eq,
        inIdOrder_increasing orderly.distinct, ?_⟩
      intro node listed
      exact orderly.renewable node ((inIdOrder_perm _).mem_iff.mp listed)
  | refused | maintained | rebalanced | weightSet | weightMissed =>
      exact ⟨coherent, settled.createClient_eq, settled.blueprint_eq, settled.increasing,
        settled.renewable⟩
  | served operation serves fits =>
      obtain ⟨sameNodes, sameBlueprint⟩ := router.cluster.nodes_perform_of_servesCall serves
      exact ⟨coherent, settled.createClient_eq, sameBlueprint.trans settled.blueprint_eq,
        sameNodes.symm ▸ settled.increasing,
        fun node listed => settled.renewable node (sameNodes ▸ listed)⟩

theorem Settled.run (settled : first.Settled first) (run : Run first events router) :
    first.Settled router := by
  induction run with
  | start => exact settled
  | step run operation own fits ih =>
      exact ih.effect steady (effect_of_perform ih.consistent operation own fits)

/-- Are the nodes where the reachable instances of the list last taken in are, if it repeats no
id? -/
def Placed (first router : Router Client) (events : List (Operation Client × Answer Client)) :
    Prop :=
  ∀ listings, lastApplied events = some listings → (listings.map Listing.id).Nodup →
    (router.cluster.nodes.map Handle.site).Perm ((first.reachable listings).map Listing.site)

theorem Settled.sites_incoming (settled : first.Settled router) {listings : List Listing}
    (distinct : (listings.map Listing.id).Nodup) :
    ((router.incoming listings).map Handle.site).Perm
      ((first.reachable listings).map Listing.site) := by
  have received := sites_receiveAll (settled.createClient_eq ▸ steady) settled.renewable listings
    distinct
  have same : router.reachable listings = first.reachable listings := by
    unfold reachable
    rw [settled.createClient_eq]
  rw [same] at received
  exact received ▸ (inIdOrder_perm _).map Handle.site

theorem Settled.length_incoming (settled : first.Settled router) (listings : List Listing) :
    (router.incoming listings).length = (first.usable listings).length := by
  have sites := congrArg List.length (sites_receiveAll_usable
    (settled.createClient_eq ▸ steady) settled.renewable listings)
  have same : router.usable listings = first.usable listings := by
    unfold usable reachable
    rw [settled.createClient_eq]
  rw [List.length_map, List.length_map, same] at sites
  exact (inIdOrder_perm _).length_eq.trans sites

omit steady in
theorem Placed.of_quiet (placed : first.Placed router events)
    {event : Operation Client × Answer Client} (quiet : applied? event = none)
    (same : after.cluster.nodes = router.cluster.nodes) :
    first.Placed after (events ++ [event]) := by
  intro listings last distinct
  rw [lastApplied_append, quiet, Option.none_or] at last
  rw [same]
  exact placed listings last distinct

theorem Placed.effect (placed : first.Placed router events) (settled : first.Settled router)
    (effect : router.Effect operation answer after) :
    first.Placed after (events ++ [(operation, answer)]) := by
  cases effect with
  | taken now listings update admitted =>
      intro taken last distinct
      rw [lastApplied_append] at last
      obtain rfl : listings = taken := Option.some.inj last
      exact settled.sites_incoming steady distinct
  | refused | maintained | rebalanced | weightSet | weightMissed => exact placed.of_quiet rfl rfl
  | served operation serves fits =>
      exact placed.of_quiet rfl (router.cluster.nodes_perform_of_servesCall serves).1

theorem Placed.run (settled : first.Settled first) (run : Run first events router) :
    first.Placed router events := by
  induction run with
  | start =>
      intro listings last
      cases last
  | step run operation own fits ih =>
      have reached := settled.run steady run
      exact ih.effect steady reached (effect_of_perform reached.consistent operation own fits)

end

theorem settled_of_create {partitioner : Partitioner} {service : String} {settings : Settings}
    {createClient : Node → Except ServiceError Client} {created : Instant}
    {router : Router Client}
    (success : create partitioner service settings createClient created = .ok router) :
    router.Settled router := by
  obtain ⟨-, -, empty, -⟩ := create_eq_ok success
  refine ⟨coherent_of_create success, rfl, rfl, ?_, ?_⟩
  · rw [empty]
    exact List.Pairwise.nil
  · intro node listed
    rw [empty] at listed
    cases listed

/-- In every state that a new router reaches, the nodes are in strict order of their ids and the
balancer has the cluster's handles. If the list last taken in repeats no id, then a new router takes
in any permutation of it, and has the same nodes, tokens and quorums on its recovery ring
afterwards. -/
theorem rebuilt_of_run {partitioner : Partitioner} {service : String} {settings : Settings}
    {createClient : Node → Except ServiceError Client} {created : Instant}
    {first router : Router Client} {events : List (Operation Client × Answer Client)}
    (success : create partitioner service settings createClient created = .ok first)
    (steady : Steady createClient) (run : Run first events router) :
    (router.cluster.nodes.map Handle.id).Pairwise (· < ·) ∧
      router.balancer.handles = router.cluster.nodes ∧
      ∀ listings, lastApplied events = some listings → (listings.map Listing.id).Nodup →
        ∀ permuted, permuted.Perm listings → ∀ begun now, ∃ fresh after update,
          create partitioner service settings createClient begun = .ok fresh ∧
          fresh.apply now permuted = (after, .ok update) ∧
          after.cluster.nodes.map Handle.site = router.cluster.nodes.map Handle.site ∧
          after.cluster.recovery.tokens = router.cluster.recovery.tokens ∧
          ∀ key, (after.cluster.recovery.quorum key).map Handle.site =
            (router.cluster.recovery.quorum key).map Handle.site := by
  obtain ⟨-, rfl, -, -⟩ := create_eq_ok success
  have new := settled_of_create success
  have settled := new.run steady run
  refine ⟨settled.increasing, settled.handles_eq, ?_⟩
  intro listings last distinct permuted perm begun now
  have placed := Placed.run steady new run listings last distinct
  have taken := new.sites_incoming steady ((perm.map Listing.id).nodup_iff.mpr distinct)
  have increasing := inIdOrder_increasing (new.orderly steady permuted).distinct
  have sites : (first.incoming permuted).map Handle.site =
      router.cluster.nodes.map Handle.site :=
    sites_eq_of_perm (pairwise_sites increasing) (pairwise_sites settled.increasing)
      ((taken.trans ((perm.filter _).map _)).trans placed.symm)
  have ids := Handle.ids_of_sites sites
  have admitted : first.cluster.blueprint.Admits (first.incoming permuted) :=
    settled.blueprint_eq ▸ settled.consistent.admits.of_ids ids.symm
  obtain ⟨update, applied⟩ := first.apply_of_admits now _ admitted
  refine ⟨first, first.following now permuted, update, success, applied, sites, ?_, ?_⟩
  · rw [settled.consistent.recovery_eq, settled.blueprint_eq]
    exact first.cluster.blueprint.tokens_ring_of_ids ids
  · intro key
    rw [settled.consistent.recovery_eq, settled.blueprint_eq]
    exact first.cluster.blueprint.map_quorum_ring_of_ids Handle.site ids sites key

def addressed (node : Node) : Except ServiceError Unit :=
  if node.address = "" then .error (.clientCreation node.id "no address") else .ok ()

theorem steady_addressed : Steady addressed := by
  intro one other sameId sameAddress
  unfold addressed
  rw [sameAddress]
  split
  · rfl
  · rfl

def newcomer : Router Unit :=
  { service := "users"
    settings := Cluster.oneStrike
    createClient := addressed
    cluster :=
      { blueprint := .ofLengths 2 2
        health := HealthRegistry.empty Cluster.oneStrike.healthPolicy
        nodes := []
        working := (Blueprint.ofLengths 2 2).ring []
        recovery := (Blueprint.ofLengths 2 2).ring [] }
    balancer := Balancer.make [] (weigh (HealthRegistry.empty Cluster.oneStrike.healthPolicy))
    made := 0 }

theorem create_newcomer :
    create (Blueprint.ofLengths 2 2).partitioner "users" Cluster.oneStrike addressed 0 =
      .ok newcomer :=
  rfl

theorem admits_usable_newcomer {router : Router Unit} (settled : newcomer.Settled router)
    {listings : List Listing} (few : (newcomer.usable listings).length ≤ 2) :
    router.cluster.blueprint.Admits (router.incoming listings) := by
  have counted := settled.length_incoming steady_addressed listings
  rw [settled.blueprint_eq]
  have largest : Blueprint.largestNodeCount = 4294967295 := rfl
  have machine : UInt64.size = 18446744073709551616 := rfl
  have memory : Overflow.largestListBytes = 9223372036854775807 := rfl
  refine
    { virtualNodes_pos := by decide
      quorumSize_pos := by decide
      length_le := by omega
      distinct := router.distinct_incoming listings
      product_lt := ?_
      capacity_le := ?_ }
  · change (router.incoming listings).length * 2 < _
    omega
  · change (router.incoming listings).length * 2 * 16 ≤ _
    omega

theorem admits_incoming_newcomer {router : Router Unit} (settled : newcomer.Settled router)
    {listings : List Listing} (distinct : (listings.map Listing.id).Nodup)
    (few : (newcomer.reachable listings).length ≤ 2) :
    router.cluster.blueprint.Admits (router.incoming listings) := by
  apply admits_usable_newcomer settled
  unfold usable
  rw [Listing.firsts_of_nodup [] listings distinct (fun listing _ => List.not_mem_nil)]
  exact few

/-- Two instances, of which one moves to another address while a third comes up without any. -/
theorem rebuilt_after_move :
    create (Blueprint.ofLengths 2 2).partitioner "users" Cluster.oneStrike addressed 0 =
        .ok newcomer ∧
      Steady addressed ∧
      ∃ (events : List (Operation Unit × Answer Unit)) (router fresh after : Router Unit)
        (update : RouterUpdate), Run newcomer events router ∧
          lastApplied events = some [⟨"d", "", []⟩, ⟨"c", "h:2", []⟩, ⟨"ab", "h:3", []⟩] ∧
          fresh.apply 7 [⟨"ab", "h:3", []⟩, ⟨"d", "", []⟩, ⟨"c", "h:2", []⟩] =
            (after, .ok update) ∧
          after.cluster.nodes.map Handle.site = router.cluster.nodes.map Handle.site ∧
          router.cluster.nodes.map Handle.site = [("ab", "h:3"), ("c", "h:2")] := by
  have new := settled_of_create create_newcomer
  obtain ⟨_, first⟩ := Run.start.take 0 [⟨"ab", "h:1", []⟩, ⟨"c", "h:2", []⟩]
    (admits_incoming_newcomer new (by decide) (by decide))
  have second := first.step (.serve (.record "ab" (some (.connect "refused")))) rfl nofun
  have settled := new.run steady_addressed second
  obtain ⟨_, third⟩ := second.take 5 [⟨"d", "", []⟩, ⟨"c", "h:2", []⟩, ⟨"ab", "h:3", []⟩]
    (admits_incoming_newcomer settled (by decide) (by decide))
  obtain ⟨increasing, -, rebuilt⟩ := rebuilt_of_run create_newcomer steady_addressed third
  obtain ⟨fresh, after, update, -, applied, same, -, -⟩ := rebuilt _
    ((lastApplied_append _ _).trans rfl) (by decide)
    [⟨"ab", "h:3", []⟩, ⟨"d", "", []⟩, ⟨"c", "h:2", []⟩] (by decide) 7 7
  refine ⟨create_newcomer, steady_addressed, _, _, fresh, after, update, third,
    (lastApplied_append _ _).trans rfl, applied, same, ?_⟩
  refine sites_eq_of_perm (pairwise_sites increasing) (by decide) ?_
  exact (Placed.run steady_addressed new third _ ((lastApplied_append _ _).trans rfl)
    (by decide)).trans (by decide)

end Router

end QuorumRouting
