import QuorumRouting.Proofs.Balancer.Selection
import QuorumRouting.Proofs.Service.Rebuild

/-!
Whom a router's balancer serves. That was settled when its handles were last weighed: the calls and
the changes of weights since then do not show in it, and no node has moved in or out of the ring. An
excluded node weighs nothing, which keeps it out unless everybody stays. When everybody stays, and
the weights of the working nodes alone can bring that about, excluded nodes are served as well.
-/

set_option autoImplicit false

namespace QuorumRouting

variable {Client : Type}

namespace Balancer

variable {balancer : Balancer Client}

theorem mem_selectable_iff {id : NodeId} :
    id ∈ balancer.selectable ↔
      ∃ position handle, position ∈ balancer.selector.positions ∧
        balancer.handles[position]? = some handle ∧ handle.id = id := by
  unfold selectable
  rw [List.mem_filterMap]
  constructor
  · rintro ⟨position, present, found⟩
    obtain ⟨handle, here, same⟩ := Option.map_eq_some_iff.mp found
    exact ⟨position, handle, present, here, same⟩
  · rintro ⟨position, handle, present, here, same⟩
    exact ⟨position, present, Option.map_eq_some_iff.mpr ⟨handle, here, same⟩⟩

theorem filterMap_getElem?_range {Item Value : Type} (items : List Item) (view : Item → Value) :
    (List.range items.length).filterMap (fun position => (items[position]?).map view) =
      items.map view := by
  induction items with
  | nil => rfl
  | cons item rest ih =>
      rw [List.length_cons, List.range_succ_eq_map, List.filterMap_cons, List.filterMap_map]
      exact congrArg (List.cons (view item)) ih

theorem mem_handles_of_pick {draw : Float} {handle : Handle Client}
    (picked : balancer.pick draw = some handle) : handle ∈ balancer.handles := by
  obtain ⟨position, -, found⟩ := Option.bind_eq_some_iff.mp picked
  exact List.mem_of_getElem? found

end Balancer

/-- Calls move no node in or out of the ring. -/
theorem Cluster.isInRing_perform_of_servesCall (cluster : Cluster Client)
    {operation : Cluster.Operation Client} (serves : operation.servesCall = true) (id : NodeId) :
    (cluster.perform operation).1.health.isInRing id = cluster.health.isInRing id := by
  cases operation with
  | updateNodes created nodes => cases serves
  | rebalance => cases serves
  | evaluateHealth now => cases serves
  | node key => rfl
  | quorum key => rfl
  | probes key now => exact isInRing_claimProbes now cluster.health _ id
  | recoveryQuorum key now => exact isInRing_claimProbes now cluster.health _ id
  | resolve key now => exact isInRing_claimProbes now cluster.health _ id
  | record node error => exact cluster.health.isInRing_account false node id error
  | recordTestRequest node error => exact cluster.health.isInRing_account true node id error

namespace Router

open Selector (EverybodyStays)

def readings (router : Router Client) : List Float :=
  router.balancer.entries.map (weigh router.cluster.health)

def weighs : Operation Client × Answer Client → Bool
  | (.apply _ _, .ok _) => true
  | (.runMaintenance _, .ok _) => true
  | (.rebalance, _) => true
  | _ => false

/-- What a router still has from the point at which its handles were weighed. -/
structure Weighed (router weighed : Router Client) : Prop where
  handles_eq : router.balancer.handles = weighed.balancer.handles
  selector_eq : router.balancer.selector = Selector.ofWeights weighed.readings
  sameRing : ∀ id, router.cluster.health.isInRing id = weighed.cluster.health.isInRing id

section

variable {router weighed after : Router Client} {operation : Operation Client}
  {answer : Answer Client}

theorem Weighed.of_effect (effect : router.Effect operation answer after)
    (weighing : weighs (operation, answer) = true) : after.Weighed after := by
  refine ⟨rfl, ?_, fun id => rfl⟩
  cases effect with
  | taken | maintained | rebalanced => rfl
  | refused | weightSet | weightMissed | served => cases weighing

theorem Weighed.effect (kept : router.Weighed weighed)
    (effect : router.Effect operation answer after)
    (unweighed : weighs (operation, answer) = false) : after.Weighed weighed := by
  cases effect with
  | taken | maintained | rebalanced => cases unweighed
  | refused | weightMissed => exact ⟨kept.handles_eq, kept.selector_eq, kept.sameRing⟩
  | weightSet position weight balancer set =>
      exact ⟨(router.balancer.handles_setWeight? position weight set).trans kept.handles_eq,
        (router.balancer.selector_setWeight? position weight set).trans kept.selector_eq,
        kept.sameRing⟩
  | served operation serves fits =>
      exact ⟨kept.handles_eq, kept.selector_eq, fun id =>
        (router.cluster.isInRing_perform_of_servesCall serves id).trans (kept.sameRing id)⟩

/-- A run goes through the point of the last weighing, and what was weighed then still holds. -/
theorem weighed_of_run {first : Router Client} {events : List (Operation Client × Answer Client)}
    (coherent : first.Coherent) (new : first.Weighed first) (run : Run first events router) :
    ∃ earlier later weighed, events = earlier ++ later ∧ Run first earlier weighed ∧
      (∀ event, earlier.getLast? = some event → weighs event = true) ∧
      (∀ event, event ∈ later → weighs event = false) ∧ router.Weighed weighed := by
  induction run with
  | start =>
      refine ⟨[], [], first, rfl, .start, ?_, List.forall_mem_nil _, new⟩
      intro event last
      cases last
  | @step events router run operation own fits ih =>
      have effect := effect_of_perform (coherent.run run).consistent operation own fits
      cases weighing : weighs (operation, (router.perform operation).2) with
      | true =>
          refine ⟨_, [], _, (List.append_nil _).symm, run.step operation own fits, ?_,
            List.forall_mem_nil _, Weighed.of_effect effect weighing⟩
          intro event last
          rw [List.getLast?_concat] at last
          rw [← Option.some.inj last]
          exact weighing
      | false =>
          obtain ⟨earlier, later, weighed, rfl, past, last, unweighed, kept⟩ := ih
          refine ⟨earlier, later ++ [(operation, (router.perform operation).2)], weighed,
            List.append_assoc _ _ _, past, last, ?_, kept.effect effect weighing⟩
          intro event listed
          rcases List.mem_append.mp listed with before | now
          · exact unweighed event before
          · rw [List.mem_singleton.mp now]
            exact weighing

theorem length_readings : weighed.readings.length = weighed.balancer.handles.length := by
  unfold readings Balancer.handles
  rw [List.length_map, List.length_map]

theorem weighed_of_create {partitioner : Partitioner} {service : String} {settings : Settings}
    {createClient : Node → Except ServiceError Client} {created : Instant}
    (success : create partitioner service settings createClient created = .ok router) :
    router.Weighed router := by
  obtain ⟨-, -, -, unbalanced⟩ := create_eq_ok success
  refine ⟨rfl, ?_, fun id => rfl⟩
  unfold readings
  rw [unbalanced]
  rfl

/-- The weight of an excluded node is zero. -/
theorem readings_of_excluded {position : Nat} {handle : Handle Client}
    (found : weighed.balancer.handles[position]? = some handle)
    (out : weighed.cluster.health.isInRing handle.id = false) :
    weighed.readings[position]? = some 0.0 := by
  unfold Balancer.handles at found
  rw [List.getElem?_map] at found
  obtain ⟨entry, here, rfl⟩ := Option.map_eq_some_iff.mp found
  unfold readings
  rw [List.getElem?_map, here]
  unfold weigh
  rw [Option.map_some, out, if_neg Bool.false_ne_true]

theorem Weighed.selectable_of_everybodyStays (kept : router.Weighed weighed)
    (stays : EverybodyStays weighed.readings) :
    router.balancer.selectable = router.balancer.handles.map Handle.id := by
  unfold Balancer.selectable
  rw [kept.selector_eq, Selector.positions_of_everybodyStays stays, length_readings,
    kept.handles_eq]
  exact Balancer.filterMap_getElem?_range _ Handle.id

theorem Weighed.isInRing_of_selectable (kept : router.Weighed weighed)
    (leave : ¬ EverybodyStays weighed.readings) {id : NodeId}
    (present : id ∈ router.balancer.selectable) :
    router.cluster.health.isInRing id = true := by
  obtain ⟨position, handle, selected, found, rfl⟩ := Balancer.mem_selectable_iff.mp present
  rw [kept.selector_eq] at selected
  rw [kept.handles_eq] at found
  rw [kept.sameRing]
  apply Bool.of_not_eq_false
  intro out
  exact (Selector.ne_zero_of_mem_positions leave selected).2 (readings_of_excluded found out)

/-- If there are handles, then every draw picks one of those that may be picked. -/
theorem Weighed.pick (kept : router.Weighed weighed) (nonempty : router.balancer.handles ≠ [])
    (draw : Float) :
    ∃ handle, router.balancer.pick draw = some handle ∧
      handle.id ∈ router.balancer.selectable := by
  have weighty : weighed.readings ≠ [] := by
    apply List.ne_nil_of_length_pos
    rw [length_readings, ← kept.handles_eq]
    exact List.length_pos_of_ne_nil nonempty
  have selected : router.balancer.selector = .ofWeightsBy .usual weighed.readings := by
    rw [Selector.ofWeightsBy_usual]
    exact kept.selector_eq
  have possible : router.balancer.selector.positions ≠ [] := by
    rw [selected]
    exact Selector.positions_ne_nil .usual weighty
  obtain ⟨position, picked, present⟩ := Selector.pick_of_positions _ draw possible
  have inside : position < router.balancer.handles.length := by
    have within := present
    rw [selected] at within
    rw [kept.handles_eq, ← length_readings]
    exact Selector.positions_lt .usual _ within
  have found := List.getElem?_eq_getElem inside
  refine ⟨router.balancer.handles[position], ?_,
    Balancer.mem_selectable_iff.mpr ⟨position, _, present, found, rfl⟩⟩
  unfold Balancer.pick
  rw [picked]
  exact found

end

/-- In every state that a new router reaches, the point of the last weighing decides whom the
balancer serves: all nodes if everybody stayed then, and otherwise nodes in the ring only. As long
as there are nodes every draw picks one of those served. -/
theorem served_of_run {partitioner : Partitioner} {service : String} {settings : Settings}
    {createClient : Node → Except ServiceError Client} {created : Instant}
    {first router : Router Client} {events : List (Operation Client × Answer Client)}
    (success : create partitioner service settings createClient created = .ok first)
    (run : Run first events router) :
    (∃ earlier later weighed, events = earlier ++ later ∧ Run first earlier weighed ∧
      (∀ event, earlier.getLast? = some event → weighs event = true) ∧
      (∀ event, event ∈ later → weighs event = false) ∧
      (EverybodyStays weighed.readings →
        router.balancer.selectable = router.cluster.nodes.map Handle.id) ∧
      (¬ EverybodyStays weighed.readings →
        ∀ id, id ∈ router.balancer.selectable → router.cluster.health.isInRing id = true)) ∧
    (router.cluster.nodes ≠ [] → ∀ draw, ∃ handle, router.balancer.pick draw = some handle ∧
      handle ∈ router.cluster.nodes ∧ handle.id ∈ router.balancer.selectable) := by
  have coherent := coherent_of_create success
  have shared := (coherent.run run).handles_eq
  obtain ⟨earlier, later, weighed, split, past, last, unweighed, kept⟩ :=
    weighed_of_run coherent (weighed_of_create success) run
  constructor
  · refine ⟨earlier, later, weighed, split, past, last, unweighed, ?_, ?_⟩
    · intro stays
      rw [← shared]
      exact kept.selectable_of_everybodyStays stays
    · intro leave id present
      exact kept.isInRing_of_selectable leave present
  · intro nonempty draw
    obtain ⟨handle, picked, served⟩ := kept.pick (shared ▸ nonempty) draw
    refine ⟨handle, picked, ?_, served⟩
    rw [← shared]
    exact Balancer.mem_handles_of_pick picked

/-- A run that ends with a weighing leaves nothing behind its last weighing. -/
theorem eq_nil_of_weighing_last {events earlier later : List (Operation Client × Answer Client)}
    {event : Operation Client × Answer Client} (split : events ++ [event] = earlier ++ later)
    (weighing : weighs event = true)
    (unweighed : ∀ event, event ∈ later → weighs event = false) : later = [] := by
  rcases List.eq_nil_or_concat' later with none | ⟨front, last, rfl⟩
  · exact none
  · rw [← List.append_assoc] at split
    have same := List.singleton_inj.mp (List.append_inj' split rfl).2
    rw [same, unweighed last (List.mem_append_right _ List.mem_cons_self)] at weighing
    cases weighing

def crowd : List Listing :=
  [⟨"ab", "h:1", []⟩, ⟨"c", "h:2", []⟩]

def peopled : Router Unit :=
  let nodes := (newcomer.receiveAll crowd).handles
  let health := newcomer.cluster.healthFor 0 nodes
  { newcomer with
    cluster :=
      { newcomer.cluster with
        health := health
        nodes := nodes
        working := newcomer.cluster.blueprint.ring (Cluster.inRing health nodes)
        recovery := newcomer.cluster.blueprint.ring nodes }
    balancer := Balancer.make
      (nodes.map (fun handle => { handle := handle, weight := initialWeight })) (weigh health)
    made := 2 }

theorem following_crowd : newcomer.following 0 crowd = peopled := by
  have sorted : newcomer.incoming crowd = (newcomer.receiveAll crowd).handles := by
    unfold incoming inIdOrder
    exact List.mergeSort_of_pairwise (by decide)
  unfold following
  rw [sorted]
  rfl

theorem run_peopled : ∃ events, Run newcomer events peopled := by
  have new := settled_of_create create_newcomer
  obtain ⟨_, taken⟩ := Run.start.take 0 crowd
    (admits_incoming_newcomer new (by decide) (by decide))
  rw [following_crowd] at taken
  exact ⟨_, taken⟩

def struck : Router Unit :=
  (peopled.perform (.serve (.record "ab" (some (.connect "refused"))))).1

theorem evaluateAll_struck :
    (struck.cluster.health.evaluateAll 0).2 =
      .ok [("ab", .excluded (Float.ofNat 1 / Float.ofNat 1))] :=
  HealthRegistry.evaluateAll_of_entry rfl

theorem run_struck : ∃ events, Run newcomer
    (events ++ [(.runMaintenance 0,
      .ok (.transitions [("ab", .excluded (Float.ofNat 1 / Float.ofNat 1))]))])
    (struck.maintained 0) := by
  obtain ⟨_, taken⟩ := run_peopled
  have failed := taken.step (.serve (.record "ab" (some (.connect "refused")))) rfl nofun
  have coherent := (coherent_of_create create_newcomer).run failed
  exact ⟨_, failed.maintain coherent.consistent evaluateAll_struck⟩

/-- Maintenance excludes the first node, and as the second one has its weight every draw picks the
second one. -/
theorem served_beside_excluded :
    create (Blueprint.ofLengths 2 2).partitioner "users" Cluster.oneStrike addressed 0 =
        .ok newcomer ∧
      (∃ events, Run newcomer events (struck.maintained 0)) ∧
      (struck.maintained 0).cluster.nodes.map Handle.id = ["ab", "c"] ∧
      (struck.maintained 0).cluster.health.isInRing "ab" = false ∧
      "ab" ∉ (struck.maintained 0).balancer.selectable ∧
      ∀ draw, ((struck.maintained 0).balancer.pick draw).map Handle.id = some "c" := by
  obtain ⟨events, run⟩ := run_struck
  have out : (struck.maintained 0).cluster.health.isInRing "ab" = false := by decide
  obtain ⟨⟨earlier, later, weighed, split, past, -, unweighed, -, kept⟩, picks⟩ :=
    served_of_run create_newcomer run
  have nothing := eq_nil_of_weighing_last split rfl unweighed
  rw [nothing, List.append_nil] at split
  rw [← split] at past
  have last : weighed = struck.maintained 0 := past.unique run
  have leave : ¬ EverybodyStays weighed.readings := by
    rw [last]
    unfold EverybodyStays Weight.Negligible
    decide +kernel
  have spared : "ab" ∉ (struck.maintained 0).balancer.selectable := by
    intro served
    rw [kept leave "ab" served] at out
    cases out
  refine ⟨create_newcomer, ⟨_, run⟩, rfl, out, spared, ?_⟩
  intro draw
  obtain ⟨handle, picked, listed, served⟩ := picks nofun draw
  have named : handle.id ∈ ["ab", "c"] := List.mem_map_of_mem listed
  rw [picked]
  rcases List.mem_cons.mp named with first | rest
  · exact absurd (first ▸ served) spared
  · exact congrArg some (List.mem_singleton.mp rest)

/-- The second node of the crowd has no weight any more, and a call to its first node has failed. -/
def burdened : Router Unit :=
  let lightened := (peopled.perform (.setWeight 1 0.0)).1
  (lightened.perform (.serve (.record "ab" (some (.connect "refused"))))).1

theorem run_burdened : ∃ events, Run newcomer events burdened := by
  obtain ⟨_, first⟩ := run_peopled
  have second := first.step (.setWeight 1 0.0) rfl nofun
  exact ⟨_, second.step (.serve (.record "ab" (some (.connect "refused")))) rfl nofun⟩

theorem evaluateAll_burdened :
    (burdened.cluster.health.evaluateAll 0).2 =
      .ok [("ab", .excluded (Float.ofNat 1 / Float.ofNat 1))] :=
  HealthRegistry.evaluateAll_of_entry rfl

/-- Maintenance excludes the first node. The second one stays in the ring without any weight, so
everybody stays, and the excluded node is picked. -/
theorem excluded_served_by_maintained :
    (∃ events transitions, Run newcomer
        (events ++ [(.runMaintenance 0, .ok (.transitions transitions))])
        (burdened.maintained 0)) ∧
      (burdened.maintained 0).cluster.nodes.map Handle.id = ["ab", "c"] ∧
      (burdened.maintained 0).cluster.health.isInRing "c" = true ∧
      (burdened.maintained 0).cluster.health.isInRing "ab" = false ∧
      (burdened.maintained 0).balancer.selectable = ["ab", "c"] ∧
      ((burdened.maintained 0).balancer.pick 0.0).map Handle.id = some "ab" := by
  obtain ⟨events, run⟩ := run_burdened
  have coherent := (coherent_of_create create_newcomer).run run
  have maintained := run.maintain coherent.consistent evaluateAll_burdened
  exact ⟨⟨events, _, maintained⟩, rfl, by decide, by decide, by decide, by decide⟩

end Router

end QuorumRouting
