import QuorumRouting.Proofs.Service.Repetition
import QuorumRouting.Service.Feed

/-!
Lists that are pushed and lists that are pulled. A router that listens to a feed from the start is
abreast of the list last published for its service, so pulling that list finds nothing to do. The
exceptions are lists from which no ring can be built. One with too many instances is refused,
pushed or pulled, and the router stays as it was. One that overflows leaves the routers that come
after it untold, and says so.
-/

set_option autoImplicit false

namespace QuorumRouting

variable {Client : Type}

/-! ### Routers that listen -/

namespace Router

structure Attentive (first router : Router Client) : Prop extends Settled first router where
  numbered : router.Numbered
  service_eq : router.service = first.service

theorem attentive_of_create {partitioner : Partitioner} {service : String} {settings : Settings}
    {createClient : Node → Except ServiceError Client} {created : Instant}
    {router : Router Client}
    (success : create partitioner service settings createClient created = .ok router) :
    router.Attentive router := by
  obtain ⟨-, -, empty, -⟩ := create_eq_ok success
  refine ⟨settled_of_create success, ⟨?_, ?_⟩, rfl⟩
  · rw [empty]
    exact List.forall_mem_nil _
  · rw [empty]
    exact List.nodup_nil

theorem service_of_create {partitioner : Partitioner} {service : String} {settings : Settings}
    {createClient : Node → Except ServiceError Client} {created : Instant}
    {router : Router Client}
    (success : create partitioner service settings createClient created = .ok router) :
    router.service = service := by
  unfold create at success
  cases made : Cluster.create partitioner settings created ([] : List (Handle Client)) with
  | error failure =>
      rw [made] at success
      cases success
  | ok cluster =>
      rw [made] at success
      obtain rfl := Except.ok.inj success
      rfl

theorem nodesChanged_of_ne {router : Router Client} {service : String} (now : Instant)
    (listings : List Listing) (other : service ≠ router.service) :
    router.nodesChanged now service listings = (router, .ok ()) :=
  if_pos other

theorem nodesChanged_own (router : Router Client) (now : Instant) (listings : List Listing) :
    router.nodesChanged now router.service listings =
      ((router.apply now listings).1,
        match (router.apply now listings).2 with
        | .error (.overflowed cause) => .error cause
        | _ => .ok ()) := by
  unfold nodesChanged
  rw [if_neg (not_not_intro rfl)]
  cases applied : router.apply now listings with
  | mk after result =>
      cases result with
      | ok update => rfl
      | error failure =>
          cases failure with
          | refused reason => rfl
          | overflowed cause => rfl

theorem nodesChanged_of_admits {router : Router Client} {listings : List Listing} (now : Instant)
    (admitted : router.cluster.blueprint.Admits (router.incoming listings)) :
    router.nodesChanged now router.service listings = (router.following now listings, .ok ()) := by
  rw [nodesChanged_own, router.apply_eq_of_admits now listings admitted]

section

variable {first router after : Router Client} {listings : List Listing}
  (steady : Steady first.createClient)

include steady

theorem Attentive.effect {operation : Operation Client} {answer : Answer Client}
    (attentive : first.Attentive router) (effect : router.Effect operation answer after) :
    first.Attentive after := by
  refine ⟨attentive.toSettled.effect steady effect,
    attentive.numbered.effect effect, ?_⟩
  cases effect with
  | taken | refused | maintained | rebalanced | weightSet | weightMissed | served =>
      exact attentive.service_eq

theorem Attentive.nodesChanged (attentive : first.Attentive router) (now : Instant)
    (service : String) (listings : List Listing) :
    first.Attentive (router.nodesChanged now service listings).1 := by
  by_cases same : service = router.service
  · subst same
    rw [nodesChanged_own]
    exact attentive.effect steady (router.effect_of_apply now listings)
  · rw [nodesChanged_of_ne now listings same]
    exact attentive

/-- A list with too many instances is refused, and only the number of clients made can tell. -/
theorem Attentive.apply_of_crowd (attentive : first.Attentive router) (now : Instant)
    (many : Blueprint.largestNodeCount < (first.usable listings).length) :
    router.apply now listings =
      ({ router with made := (router.receiveAll listings).made },
        .error (.refused (.invalidNode "too many nodes for one ring"))) := by
  rw [← attentive.length_incoming steady] at many
  have admits := attentive.consistent.admits
  have refused := Blueprint.build_of_crowd admits.virtualNodes_pos admits.quorumSize_pos many
  obtain ⟨failure, unbuilt, applied⟩ := router.apply_of_not_admits now listings
    (fun admitted => Nat.not_lt.mpr admitted.length_le many)
  rw [unbuilt] at refused
  rw [applied, Except.error.inj refused]

/-- A router that was told a list that is not too long, and did not overflow, is abreast of it. -/
theorem Attentive.abreast_of_told (attentive : first.Attentive router) {now : Instant}
    (told : (router.nodesChanged now first.service listings).2 = .ok ())
    (few : (first.usable listings).length ≤ Blueprint.largestNodeCount) :
    (router.nodesChanged now first.service listings).1.Abreast listings := by
  rw [← attentive.service_eq, nodesChanged_own] at told ⊢
  by_cases admitted : router.cluster.blueprint.Admits (router.incoming listings)
  · rw [router.apply_eq_of_admits now listings admitted]
    exact abreast_following steady attentive.toSettled now listings admitted
  · obtain ⟨failure, unbuilt, applied⟩ := router.apply_of_not_admits now listings admitted
    have admits := attentive.consistent.admits
    obtain ⟨cause, rfl⟩ := Blueprint.overflowed_of_build admits.virtualNodes_pos
      admits.quorumSize_pos ((attentive.length_incoming steady listings).trans_le few)
      (router.distinct_incoming listings) unbuilt
    rw [applied] at told
    cases told

omit steady in
/-- To be told the list once more changes nothing about that. -/
theorem Attentive.abreast_nodesChanged (attentive : first.Attentive router)
    (abreast : router.Abreast listings) (now : Instant) :
    (router.nodesChanged now first.service listings).1.Abreast listings := by
  obtain ⟨skipped, applied⟩ := abreast.apply_eq attentive.toCoherent attentive.numbered now
  rw [← attentive.service_eq, nodesChanged_own, applied]
  exact abreast.of_unmoved rfl rfl rfl

end

theorem bootstrap_of_listed {router : Router Client} {feed : Feed} {listings : List Listing}
    (listed : feed.listNodes router.service = .ok listings) (now : Instant) :
    router.bootstrap now feed =
      ((router.apply now listings).1,
        (router.apply now listings).2.mapError (Failure.mapReason ServiceError.routing)) := by
  unfold bootstrap
  rw [listed]

def Operation.leavesNodes : Operation Client → Bool
  | .apply _ _ => false
  | operation => operation.isOwn

theorem Abreast.effect {router after : Router Client} {operation : Operation Client}
    {answer : Answer Client} {listings : List Listing} (abreast : router.Abreast listings)
    (effect : router.Effect operation answer after) (leaves : operation.leavesNodes = true) :
    after.Abreast listings := by
  cases effect with
  | taken | refused => cases leaves
  | maintained | rebalanced | weightSet | weightMissed => exact abreast.of_unmoved rfl rfl rfl
  | served operation serves fits =>
      exact abreast.of_unmoved (router.cluster.nodes_perform_of_servesCall serves).1 rfl rfl

theorem Operation.isOwn_of_leavesNodes {operation : Operation Client}
    (leaves : operation.leavesNodes = true) : operation.isOwn = true := by
  cases operation with
  | apply now listings => cases leaves
  | runMaintenance | rebalance | setWeight | serve => exact leaves

end Router

/-! ### Feeds -/

theorem Feed.list?_store (feed : Feed) (service other : String) (listings : List Listing) :
    (feed.store service listings).list? other =
      if other = service then some listings else feed.list? other := by
  unfold store list?
  by_cases same : other = service
  · rw [if_pos same, same, List.lookup_cons, beq_self_eq_true]
  · rw [if_neg same, List.lookup_cons, beq_false_of_ne same]
    dsimp only
    induction feed.published with
    | nil => rfl
    | cons entry rest ih =>
        obtain ⟨name, published⟩ := entry
        by_cases here : other = name
        · subst here
          rw [List.filter_cons, if_pos (decide_eq_true same), List.lookup_cons, List.lookup_cons,
            beq_self_eq_true]
        · rw [List.filter_cons, List.lookup_cons, beq_false_of_ne here, ← ih]
          split
          · rw [List.lookup_cons, beq_false_of_ne here]
          · rfl

namespace Exchange

/-- A list that was published, and whether telling it to the routers overflowed. -/
structure Publication where
  service : String
  listings : List Listing
  result : Except Overflow Unit

def lastPublication (service : String) (history : List Publication) : Option Publication :=
  (history.filter (fun publication => publication.service = service)).getLast?

theorem lastPublication_append (service : String) (history : List Publication)
    (publication : Publication) :
    lastPublication service (history ++ [publication]) =
      if publication.service = service then some publication
      else lastPublication service history := by
  unfold lastPublication
  rw [List.filter_append]
  by_cases same : publication.service = service
  · rw [if_pos same, List.filter_singleton, decide_eq_true same, cond_true, List.getLast?_concat]
  · rw [if_neg same, List.filter_singleton, decide_eq_false same, cond_false, List.append_nil]

/-- The runs from a first exchange, with what was published in the order of time. Lists are
published for any services, more routers subscribe, and each router does what it does, but that it
takes in no lists other than those that come from the feed. -/
inductive Run (first : Exchange Client) : List Publication → Exchange Client → Prop where
  | start : Run first [] first
  | publish {history : List Publication} {exchange : Exchange Client}
      (run : Run first history exchange) (now : Instant) (service : String)
      (listings : List Listing) :
      Run first (history ++ [⟨service, listings, (exchange.publish now service listings).2⟩])
        (exchange.publish now service listings).1
  | subscribe {history : List Publication} {exchange : Exchange Client}
      (run : Run first history exchange) (position : Nat) :
      Run first history (exchange.subscribe position)
  | operate {history : List Publication} {exchange : Exchange Client}
      (run : Run first history exchange) {position : Nat} {router : Router Client}
      (present : exchange.routers[position]? = some router)
      (operation : Router.Operation Client) (leaves : operation.leavesNodes = true)
      (fits : (router.perform operation).2 ≠ .error (.overflowed .sum)) :
      Run first history
        { exchange with routers := exchange.routers.set position (router.perform operation).1 }
  | pull {history : List Publication} {exchange : Exchange Client}
      (run : Run first history exchange) {position : Nat} {router : Router Client}
      (present : exchange.routers[position]? = some router) (now : Instant) :
      Run first history
        { exchange with
          routers := exchange.routers.set position (router.bootstrap now exchange.feed).1 }

def Lists (feed : Feed) (history : List Publication) : Prop :=
  ∀ service, feed.list? service = (lastPublication service history).map Publication.listings

theorem Lists.store {feed : Feed} {history : List Publication} (lists : Lists feed history)
    (service : String) (listings : List Listing) (result : Except Overflow Unit) :
    Lists (feed.store service listings) (history ++ [⟨service, listings, result⟩]) := by
  intro other
  rw [lastPublication_append, Feed.list?_store]
  by_cases same : other = service
  · rw [if_pos same, if_pos same.symm]
    rfl
  · rw [if_neg same, if_neg (Ne.symm same)]
    exact lists other

theorem Lists.listNodes {feed : Feed} {history : List Publication} (lists : Lists feed history)
    (service : String) :
    feed.listNodes service =
      match lastPublication service history with
      | some publication => .ok publication.listings
      | none => .error (.unknownService service) := by
  unfold Feed.listNodes
  rw [lists service]
  cases lastPublication service history with
  | none => rfl
  | some publication => rfl

/-! ### Telling -/

section

variable {now : Instant} {service : String} {listings : List Listing} {position : Nat}
  {router : Router Client}

def told (now : Instant) (service : String) (listings : List Listing) (listener : Nat)
    (routers : List (Router Client)) : List (Router Client) :=
  routers.modify listener (fun router => (router.nodesChanged now service listings).1)

theorem getElem?_told (now : Instant) (service : String) (listings : List Listing)
    (listener : Nat) {routers : List (Router Client)}
    (present : routers[position]? = some router) :
    (told now service listings listener routers)[position]? =
      some (if listener = position then (router.nodesChanged now service listings).1
        else router) := by
  unfold told
  rw [List.getElem?_modify, present]
  rfl

/-- Telling one listener is the end of it when that overflows, and otherwise the others are told. -/
theorem tell_cons (now : Instant) (service : String) (listings : List Listing) (listener : Nat)
    (rest : List Nat) (routers : List (Router Client)) :
    (∃ cause, tell now service listings (listener :: rest) routers =
        (told now service listings listener routers, .error cause)) ∨
      ((∀ router, routers[listener]? = some router →
          (router.nodesChanged now service listings).2 = .ok ()) ∧
        tell now service listings (listener :: rest) routers =
          tell now service listings rest (told now service listings listener routers)) := by
  unfold told
  simp only [tell, List.modify_eq_set_getElem?]
  cases here : routers[listener]? with
  | none => exact .inr ⟨nofun, rfl⟩
  | some heard =>
      cases outcome : heard.nodesChanged now service listings with
      | mk after result =>
          cases result with
          | error cause =>
              refine .inl ⟨cause, ?_⟩
              dsimp only [Option.map_eq_map, Option.map_some, Option.getD_some]
              rw [outcome]
          | ok done =>
              refine .inr ⟨?_, ?_⟩
              · intro router found
                rw [← Option.some.inj found, outcome]
              · dsimp only [Option.map_eq_map, Option.map_some, Option.getD_some]
                rw [outcome]

section

variable (Kept : Router Client → Prop)
  (keeps : ∀ router, Kept router → Kept (router.nodesChanged now service listings).1)

include keeps

theorem kept_told (listener : Nat) {routers : List (Router Client)}
    (present : routers[position]? = some router) (kept : Kept router) :
    ∃ after, (told now service listings listener routers)[position]? = some after ∧
      Kept after := by
  refine ⟨_, getElem?_told now service listings listener present, ?_⟩
  split
  · exact keeps router kept
  · exact kept

/-- What a router keeps when it is told a list, it keeps when all listeners are told. -/
theorem kept_tell (listeners : List Nat) {routers : List (Router Client)}
    (present : routers[position]? = some router) (kept : Kept router) :
    ∃ after, (tell now service listings listeners routers).1[position]? = some after ∧
      Kept after := by
  induction listeners generalizing routers router with
  | nil => exact ⟨router, present, kept⟩
  | cons listener rest ih =>
      obtain ⟨after, here, still⟩ := kept_told Kept keeps listener present kept
      rcases tell_cons now service listings listener rest routers with ⟨cause, same⟩ | ⟨-, same⟩
      · rw [same]
        exact ⟨after, here, still⟩
      · rw [same]
        exact ih here still

/-- What a router gains when it is told a list without an overflow, and keeps when it is told the
list again, it has once all listeners were told without an overflow. -/
theorem gained_tell (Gained : Router Client → Prop)
    (gains : ∀ router, Kept router → (router.nodesChanged now service listings).2 = .ok () →
      Gained (router.nodesChanged now service listings).1)
    (retains : ∀ router, Kept router → Gained router →
      Gained (router.nodesChanged now service listings).1)
    {listeners : List Nat} (subscribed : position ∈ listeners) {routers : List (Router Client)}
    (present : routers[position]? = some router) (kept : Kept router)
    (success : (tell now service listings listeners routers).2 = .ok ()) :
    ∃ after, (tell now service listings listeners routers).1[position]? = some after ∧
      Kept after ∧ Gained after := by
  induction listeners generalizing routers router with
  | nil => cases subscribed
  | cons listener rest ih =>
      rcases tell_cons now service listings listener rest routers with ⟨cause, same⟩ | ⟨fine, same⟩
      · rw [same] at success
        cases success
      · rw [same] at success ⊢
        have heard := getElem?_told now service listings listener present
        by_cases here : listener = position
        · subst here
          rw [if_pos rfl] at heard
          exact kept_tell (fun router => Kept router ∧ Gained router)
            (fun router both => ⟨keeps router both.1, retains router both.1 both.2⟩) rest heard
            ⟨keeps router kept, gains router kept (fine router present)⟩
        · rw [if_neg here] at heard
          have later := (List.mem_cons.mp subscribed).resolve_left (Ne.symm here)
          exact ih later heard kept success

end

end

/-! ### Runs -/

structure Follows (first : Router Client) (position : Nat) (history : List Publication)
    (exchange : Exchange Client) (router : Router Client) : Prop where
  lists : Lists exchange.feed history
  present : exchange.routers[position]? = some router
  subscribed : position ∈ exchange.listeners
  attentive : first.Attentive router
  abreast : ∀ publication, lastPublication first.service history = some publication →
    publication.result = .ok () →
    (first.usable publication.listings).length ≤ Blueprint.largestNodeCount →
    router.Abreast publication.listings

section

variable {first router : Router Client} {position : Nat} {history : List Publication}
  {exchange : Exchange Client} (steady : Steady first.createClient)

/-- Lists of other services are not for this router. -/
theorem Follows.publish_other (follows : Follows first position history exchange router)
    (now : Instant) {service : String} (listings : List Listing)
    (other : service ≠ first.service) :
    (exchange.publish now service listings).1.routers[position]? = some router := by
  have unmoved : (router.nodesChanged now service listings).1 = router :=
    congrArg Prod.fst (Router.nodesChanged_of_ne now listings
      (follows.attentive.service_eq.symm ▸ other))
  have keeps (kept : Router Client) (same : router = kept) :
      router = (kept.nodesChanged now service listings).1 := by
    subst same
    exact unmoved.symm
  obtain ⟨after, present, rfl⟩ := kept_tell (fun kept => router = kept) keeps exchange.listeners
    follows.present rfl
  exact present

/-- Any router may become another one, and the one that listens may if it stays as it should be. -/
theorem Follows.replace (follows : Follows first position history exchange router)
    {place : Nat} {other after : Router Client} (found : exchange.routers[place]? = some other)
    (fitting : other = router → first.Attentive after ∧
      ∀ publication, lastPublication first.service history = some publication →
        router.Abreast publication.listings → after.Abreast publication.listings) :
    ∃ later, Follows first position history
      { exchange with routers := exchange.routers.set place after } later := by
  by_cases here : place = position
  · subst here
    obtain ⟨attentive, keeps⟩ := fitting (Option.some.inj (found.symm.trans follows.present))
    refine ⟨after, follows.lists, ?_, follows.subscribed, attentive, ?_⟩
    · exact List.getElem?_set_self (List.getElem?_eq_some_iff.mp found).1
    · intro publication last success few
      exact keeps publication last (follows.abreast publication last success few)
  · refine ⟨router, follows.lists, ?_, follows.subscribed, follows.attentive, follows.abreast⟩
    exact (List.getElem?_set_ne here).trans follows.present

theorem Follows.bootstrap_of_never (follows : Follows first position history exchange router)
    (never : lastPublication first.service history = none) (now : Instant) :
    router.bootstrap now exchange.feed =
      (router, .error (.refused (.unknownService first.service))) := by
  unfold Router.bootstrap
  rw [follows.lists.listNodes, follows.attentive.service_eq, never]

theorem Follows.bootstrap_of_last (follows : Follows first position history exchange router)
    {publication : Publication} (last : lastPublication first.service history = some publication)
    (now : Instant) :
    router.bootstrap now exchange.feed =
      ((router.apply now publication.listings).1,
        (router.apply now publication.listings).2.mapError
          (Failure.mapReason ServiceError.routing)) := by
  apply Router.bootstrap_of_listed
  rw [follows.lists.listNodes, follows.attentive.service_eq, last]

include steady

theorem Follows.publish (follows : Follows first position history exchange router)
    (now : Instant) (service : String) (listings : List Listing) :
    ∃ after, Follows first position
      (history ++ [⟨service, listings, (exchange.publish now service listings).2⟩])
      (exchange.publish now service listings).1 after := by
  have listed (result : Except Overflow Unit) := follows.lists.store service listings result
  by_cases own : service = first.service
  · subst own
    have keeps (router : Router Client) (attentive : first.Attentive router) :=
      attentive.nodesChanged steady now first.service listings
    cases result : (exchange.publish now first.service listings).2 with
    | error cause =>
        obtain ⟨after, present, attentive⟩ := kept_tell first.Attentive keeps
          exchange.listeners follows.present follows.attentive
        refine ⟨after, listed _, present, follows.subscribed, attentive, ?_⟩
        intro publication last success
        rw [lastPublication_append, if_pos rfl] at last
        rw [← Option.some.inj last] at success
        cases success
    | ok done =>
        obtain ⟨after, present, attentive, gained⟩ := gained_tell first.Attentive keeps
          (fun router =>
            (first.usable listings).length ≤ Blueprint.largestNodeCount → router.Abreast listings)
          (fun router attentive told few => attentive.abreast_of_told steady told few)
          (fun router attentive gained few => attentive.abreast_nodesChanged (gained few) now)
          follows.subscribed follows.present follows.attentive result
        refine ⟨after, listed _, present, follows.subscribed, attentive, ?_⟩
        intro publication last success few
        rw [lastPublication_append, if_pos rfl] at last
        obtain rfl := Option.some.inj last
        exact gained few
  · refine ⟨router, listed _, follows.publish_other now listings own, follows.subscribed,
      follows.attentive, ?_⟩
    intro publication last
    rw [lastPublication_append, if_neg own] at last
    exact follows.abreast publication last

theorem Follows.operate (follows : Follows first position history exchange router)
    {place : Nat} {other : Router Client} (found : exchange.routers[place]? = some other)
    (operation : Router.Operation Client) (leaves : operation.leavesNodes = true)
    (fits : (other.perform operation).2 ≠ .error (.overflowed .sum)) :
    ∃ after, Follows first position history
      { exchange with routers := exchange.routers.set place (other.perform operation).1 }
      after := by
  apply follows.replace found
  rintro rfl
  have effect := Router.effect_of_perform follows.attentive.consistent operation
    (Router.Operation.isOwn_of_leavesNodes leaves) fits
  refine ⟨follows.attentive.effect steady effect, ?_⟩
  intro publication last abreast
  exact abreast.effect effect leaves

theorem Follows.pull (follows : Follows first position history exchange router) {place : Nat}
    {other : Router Client} (found : exchange.routers[place]? = some other) (now : Instant) :
    ∃ after, Follows first position history
      { exchange with
        routers := exchange.routers.set place (other.bootstrap now exchange.feed).1 }
      after := by
  apply follows.replace found
  rintro rfl
  constructor
  · cases last : lastPublication first.service history with
    | none =>
        rw [follows.bootstrap_of_never last]
        exact follows.attentive
    | some publication =>
        rw [follows.bootstrap_of_last last]
        exact follows.attentive.effect steady (other.effect_of_apply now publication.listings)
  · intro publication last abreast
    obtain ⟨skipped, applied⟩ := abreast.apply_eq follows.attentive.toCoherent
      follows.attentive.numbered now
    rw [follows.bootstrap_of_last last, applied]
    exact abreast.of_unmoved rfl rfl rfl

theorem follows_of_run {start : Exchange Client} (attentive : first.Attentive first)
    (unpublished : start.feed = Feed.empty) (present : start.routers[position]? = some first)
    (subscribed : position ∈ start.listeners)
    (run : Run start history exchange) :
    ∃ router, Follows first position history exchange router := by
  induction run with
  | start =>
      refine ⟨first, ?_, present, subscribed, attentive, ?_⟩
      · intro service
        rw [unpublished]
        rfl
      · intro publication last
        cases last
  | publish run now service listings ih =>
      obtain ⟨router, follows⟩ := ih
      exact follows.publish steady now service listings
  | subscribe run place ih =>
      obtain ⟨router, follows⟩ := ih
      exact ⟨router, follows.lists, follows.present, List.mem_append_left _ follows.subscribed,
        follows.attentive, follows.abreast⟩
  | operate run found operation leaves fits ih =>
      obtain ⟨router, follows⟩ := ih
      exact follows.operate steady found operation leaves fits
  | pull run found now ih =>
      obtain ⟨router, follows⟩ := ih
      exact follows.pull steady found now

end

/-- The feed lists what was last published for each service. A router that has listened from the
start takes no notice of other services; when its own was never published, pulling tells it so. When
telling the list last published for it did not overflow, pulling that list finds the nodes that are
there, and comes to weighing their handles again; a list with too many instances is refused, and
leaves the nodes, the rings and the records as they are. -/
theorem bootstrap_of_run {partitioner : Partitioner} {service : String} {settings : Settings}
    {createClient : Node → Except ServiceError Client} {created : Instant}
    {first : Router Client} {start exchange : Exchange Client} {position : Nat}
    {history : List Publication}
    (success : Router.create partitioner service settings createClient created = .ok first)
    (steady : Steady createClient) (unpublished : start.feed = Feed.empty)
    (present : start.routers[position]? = some first) (subscribed : position ∈ start.listeners)
    (run : Run start history exchange) :
    (∀ other, exchange.feed.listNodes other =
      match lastPublication other history with
      | some publication => .ok publication.listings
      | none => .error (.unknownService other)) ∧
    ∃ router, exchange.routers[position]? = some router ∧
      (∀ now other listings, other ≠ service →
        (exchange.publish now other listings).1.routers[position]? = some router) ∧
      (lastPublication service history = none → ∀ now, router.bootstrap now exchange.feed =
        (router, .error (.refused (.unknownService service)))) ∧
      ∀ publication, lastPublication service history = some publication →
        publication.result = .ok () → ∀ now,
          ((first.usable publication.listings).length ≤ Blueprint.largestNodeCount →
            ∃ skipped, router.bootstrap now exchange.feed =
              (router.rebalance,
                .ok { added := 0, removed := 0, kept := router.cluster.nodes.length,
                      skipped := skipped })) ∧
          (Blueprint.largestNodeCount < (first.usable publication.listings).length →
            ∃ made, router.bootstrap now exchange.feed =
              ({ router with made := made },
                .error (.refused (.routing
                  (.invalidNode "too many nodes for one ring"))))) := by
  obtain ⟨-, rfl, -, -⟩ := Router.create_eq_ok success
  obtain rfl := Router.service_of_create success
  obtain ⟨router, follows⟩ := follows_of_run steady (Router.attentive_of_create success)
    unpublished present subscribed run
  refine ⟨follows.lists.listNodes, router, follows.present, ?_, follows.bootstrap_of_never, ?_⟩
  · intro now other listings different
    exact follows.publish_other now listings different
  · intro publication last done now
    rw [follows.bootstrap_of_last last]
    constructor
    · intro few
      obtain ⟨skipped, applied⟩ := (follows.abreast publication last done few).apply_eq
        follows.attentive.toCoherent follows.attentive.numbered now
      rw [applied]
      exact ⟨skipped, rfl⟩
    · intro many
      rw [follows.attentive.apply_of_crowd steady now many]
      exact ⟨_, rfl⟩

/-! ### One listener -/

def alone (router : Router Client) : Exchange Client :=
  { feed := Feed.empty, routers := [router], listeners := [0] }

theorem publish_alone {router after : Router Client} {feed : Feed} {now : Instant}
    {service : String} {listings : List Listing} {result : Except Overflow Unit}
    (told : router.nodesChanged now service listings = (after, result)) :
    ({ alone router with feed := feed } : Exchange Client).publish now service listings =
      ({ alone after with feed := feed.store service listings }, result) := by
  unfold publish alone
  simp only [tell, List.getElem?_cons_zero, told]
  cases result with
  | ok done => rfl
  | error cause => rfl

theorem run_alone {router after : Router Client} {now : Instant} {service : String}
    {listings : List Listing} {result : Except Overflow Unit}
    (told : router.nodesChanged now service listings = (after, result)) :
    Run (alone router) [⟨service, listings, result⟩]
      { alone after with feed := Feed.empty.store service listings } := by
  have published : (alone router).publish now service listings =
      ({ alone after with feed := Feed.empty.store service listings }, result) :=
    publish_alone told
  have run := (Run.start : Run (alone router) _ _).publish now service listings
  rw [published] at run
  exact run

theorem listNodes_store (feed : Feed) (service : String) (listings : List Listing) :
    (feed.store service listings).listNodes service = .ok listings := by
  unfold Feed.listNodes
  rw [Feed.list?_store, if_pos rfl]

def mixed : List Listing :=
  [⟨"c", "h:2", []⟩, ⟨"d", "", []⟩, ⟨"c", "h:9", []⟩, ⟨"ab", "h:1", []⟩]

/-- Instances of which one repeats an id and one has no address are published, a call fails, and
another service is published. -/
theorem bootstrap_after_failure :
    Router.create (Blueprint.ofLengths 2 2).partitioner "users" Cluster.oneStrike Router.addressed
        0 = .ok Router.newcomer ∧
      Steady Router.addressed ∧
      ∃ history exchange router skipped, Run (alone Router.newcomer) history exchange ∧
        lastPublication "users" history = some ⟨"users", mixed, .ok ()⟩ ∧
        exchange.routers[0]? = some router ∧
        router.cluster.nodes.map Handle.site = [("ab", "h:1"), ("c", "h:2")] ∧
        router.bootstrap 9 exchange.feed =
          (router.rebalance, .ok { added := 0, removed := 0, kept := 2, skipped := skipped }) := by
  have new := Router.settled_of_create Router.create_newcomer
  have admitted : Router.newcomer.cluster.blueprint.Admits (Router.newcomer.incoming mixed) :=
    Router.admits_usable_newcomer new (by decide)
  have first : Run (alone Router.newcomer) [⟨"users", mixed, .ok ()⟩] _ :=
    run_alone (Router.nodesChanged_of_admits 0 admitted)
  have present : [Router.newcomer.following 0 mixed][0]? =
      some (Router.newcomer.following 0 mixed) := rfl
  have second := first.operate present (.serve (.record "ab" (some (.connect "refused")))) rfl nofun
  have third := second.publish 5 "orders" mixed
  have subscribed : 0 ∈ (alone Router.newcomer).listeners := List.mem_singleton.mpr rfl
  obtain ⟨-, router, same, ignores, -, -⟩ := bootstrap_of_run Router.create_newcomer
    Router.steady_addressed rfl rfl subscribed second
  obtain ⟨-, other, still, -, -, pulled⟩ := bootstrap_of_run Router.create_newcomer
    Router.steady_addressed rfl rfl subscribed third
  obtain rfl : router = other :=
    Option.some.inj ((ignores 5 "orders" mixed (by decide)).symm.trans still)
  have nodes : router.cluster.nodes = Router.newcomer.incoming mixed := by
    rw [← Option.some.inj same]
    rfl
  have sites : router.cluster.nodes.map Handle.site = [("ab", "h:1"), ("c", "h:2")] := by
    rw [nodes]
    refine Router.sites_eq_of_perm (Router.pairwise_sites (Router.inIdOrder_increasing
      (new.orderly Router.steady_addressed mixed).distinct)) (by decide) ?_
    exact ((Router.inIdOrder_perm _).map Handle.site).trans (by decide)
  have last (result : Except Overflow Unit) :
      lastPublication "users" ([⟨"users", mixed, .ok ()⟩] ++ [⟨"orders", mixed, result⟩]) =
        some ⟨"users", mixed, .ok ()⟩ :=
    (lastPublication_append _ _ _).trans rfl
  obtain ⟨skipped, found⟩ := (pulled _ (last _) rfl 9).1 (by decide)
  have two : router.cluster.nodes.length = 2 := by
    have counted := congrArg List.length sites
    rw [List.length_map] at counted
    exact counted
  rw [two] at found
  exact ⟨Router.create_newcomer, Router.steady_addressed, _, _, router, skipped, third, last _,
    still, sites, found⟩

/-! ### Lists from which no ring can be built -/

def throng (count : Nat) : List Listing :=
  (List.range count).map (fun length => ⟨String.ofList (List.replicate length 'a'), "h:1", []⟩)

theorem length_throng (count : Nat) : (throng count).length = count := by
  unfold throng
  rw [List.length_map, List.length_range]

theorem usable_throng (count : Nat) : Router.newcomer.usable (throng count) = throng count := by
  have distinct : ((throng count).map Listing.id).Nodup := by
    unfold throng
    rw [List.map_map]
    refine List.Nodup.map ?_ List.nodup_range
    intro one other same
    have lengths := congrArg String.length same
    simpa using lengths
  unfold Router.usable
  rw [Listing.firsts_of_nodup [] _ distinct (fun listing _ => List.not_mem_nil)]
  apply List.filter_eq_self.mpr
  intro listing listed
  obtain ⟨length, -, rfl⟩ := List.mem_map.mp listed
  rfl

def strained : Router Unit :=
  let blueprint := Blueprint.ofLengths 1152921504606846976 2
  { Router.newcomer with
    settings := { Cluster.oneStrike with virtualNodes := 1152921504606846976 }
    cluster :=
      { Router.newcomer.cluster with
        blueprint := blueprint
        working := blueprint.ring []
        recovery := blueprint.ring [] } }

theorem create_strained :
    Router.create strained.cluster.blueprint.partitioner "users" strained.settings
      Router.addressed 0 = .ok strained :=
  rfl

theorem build_strained (handle : Handle Unit) :
    strained.cluster.blueprint.build [handle] = .error (.overflowed .capacity) := by
  have once : Blueprint.firstRepeated [] ([handle].map Handle.id) = none := rfl
  have size : ([handle].length * strained.cluster.blueprint.virtualNodes) = 1152921504606846976 :=
    Nat.one_mul _
  unfold Blueprint.build Blueprint.obstacle
  dsimp only
  rw [size, once, if_neg (by decide), if_neg (by decide), if_neg]
  · rfl
  · rw [List.length_singleton]
    decide

/-- A router that fails to take a list in fails at the same list when it pulls it. -/
theorem pull_alone {router after : Router Client} {listings : List Listing}
    {result : Except Overflow Unit} {failure : Failure Refusal}
    (told : router.nodesChanged 0 router.service listings = (after, result))
    (same : after.service = router.service)
    (again : ∀ now, (after.apply now listings).2 = .error failure) :
    ∃ exchange pulling, Run (alone router) [⟨router.service, listings, result⟩] exchange ∧
      exchange.routers[0]? = some pulling ∧
      ∀ now, (pulling.bootstrap now exchange.feed).2 =
        .error (failure.mapReason ServiceError.routing) := by
  refine ⟨_, after, run_alone told, rfl, ?_⟩
  intro now
  have listed : (Feed.empty.store router.service listings).listNodes after.service =
      .ok listings :=
    same ▸ listNodes_store Feed.empty router.service listings
  change (after.bootstrap now (Feed.empty.store router.service listings)).2 = _
  rw [Router.bootstrap_of_listed listed]
  dsimp only
  rw [again]
  rfl

def single : Listing :=
  { id := "a", address := "h:1", tags := [] }

theorem apply_strained (made : Nat) (now : Instant) :
    ({ strained with made := made } : Router Unit).apply now [single] =
      ({ strained with made := made + 1 }, .error (.overflowed .capacity)) := by
  have incoming : ({ strained with made := made } : Router Unit).incoming [single] =
      [{ serial := made, node := single.toNode, client := () }] :=
    List.mergeSort_singleton _
  have overflowing := build_strained { serial := made, node := single.toNode, client := () }
  rw [← incoming] at overflowing
  obtain ⟨failure, unbuilt, applied⟩ :=
    ({ strained with made := made } : Router Unit).apply_of_not_admits now [single] (by
      intro admitted
      cases overflowing.symm.trans admitted.build)
  obtain rfl : .overflowed .capacity = failure := Except.error.inj (overflowing.symm.trans unbuilt)
  exact applied

/-- A list is published, of which no update comes when it is pulled: too many instances are refused,
and a single one overflows when it takes too much memory. -/
theorem published_not_pulled :
    Router.create (Blueprint.ofLengths 2 2).partitioner "users" Cluster.oneStrike Router.addressed
        0 = .ok Router.newcomer ∧
      Router.create strained.cluster.blueprint.partitioner "users" strained.settings
        Router.addressed 0 = .ok strained ∧
      Steady Router.addressed ∧
      (∃ exchange router,
        Run (alone Router.newcomer) [⟨"users", throng 4294967296, .ok ()⟩] exchange ∧
          exchange.routers[0]? = some router ∧
          ∀ now, (router.bootstrap now exchange.feed).2 = .error (.refused (.routing
            (.invalidNode "too many nodes for one ring")))) ∧
      ∃ exchange router,
        Run (alone strained) [⟨"users", [single], .error .capacity⟩] exchange ∧
          exchange.routers[0]? = some router ∧
          ∀ now, (router.bootstrap now exchange.feed).2 = .error (.overflowed .capacity) := by
  refine ⟨Router.create_newcomer, create_strained, Router.steady_addressed, ?_, ?_⟩
  · have new := Router.attentive_of_create Router.create_newcomer
    have many : Blueprint.largestNodeCount <
        (Router.newcomer.usable (throng 4294967296)).length := by
      rw [usable_throng, length_throng]
      decide
    have after := new.nodesChanged Router.steady_addressed 0 Router.newcomer.service
      (throng 4294967296)
    have told := Router.newcomer.nodesChanged_own 0 (throng 4294967296)
    rw [new.apply_of_crowd Router.steady_addressed 0 many] at told
    rw [told] at after
    exact pull_alone told rfl
      (fun now => congrArg Prod.snd (after.apply_of_crowd Router.steady_addressed now many))
  · have overflowed : strained.apply 0 [single] = _ := apply_strained 0 0
    have told := strained.nodesChanged_own 0 [single]
    rw [overflowed] at told
    exact pull_alone told rfl (fun now => congrArg Prod.snd (apply_strained 1 now))

end Exchange

end QuorumRouting
