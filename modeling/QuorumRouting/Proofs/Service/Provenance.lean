import QuorumRouting.Proofs.Service.Course

/-!
Where a router's handles come from. A handle is made for one instance, and it stays for as long as
the lists put the first instance of its id at the same address. So its id and its address are always
those of the last list. Its tags are those of the list it was made by: what later lists say of tags
alone, while they repeat the id and the address, reaches nobody.
-/

set_option autoImplicit false

namespace QuorumRouting

variable {Client : Type}

def Listing.first? (listings : List Listing) (id : NodeId) : Option Listing :=
  listings.find? (fun listing => listing.id = id)

theorem Listing.first?_eq_none_iff (listings : List Listing) (id : NodeId) :
    first? listings id = none ↔ id ∉ listings.map Listing.id := by
  unfold first?
  rw [List.find?_eq_none, List.mem_map]
  constructor
  · rintro unlisted ⟨listing, listed, same⟩
    exact unlisted listing listed (decide_eq_true same)
  · intro unlisted listing listed same
    exact unlisted ⟨listing, listed, of_decide_eq_true same⟩

theorem Listing.first?_concat_self {listings : List Listing} {listing : Listing}
    (new : listing.id ∉ listings.map Listing.id) :
    first? (listings ++ [listing]) listing.id = some listing := by
  rw [← first?_eq_none_iff] at new
  unfold first? at new ⊢
  rw [List.find?_append, new, Option.none_or]
  exact List.find?_cons_of_pos (decide_eq_true rfl)

theorem Listing.first?_concat {listings : List Listing} {id : NodeId} {entry : Listing}
    (found : first? listings id = some entry) (listing : Listing) :
    first? (listings ++ [listing]) id = some entry := by
  unfold first? at found ⊢
  rw [List.find?_append, found]
  rfl

namespace Router

/-! ### Handles and the instances of one list -/

theorem Received.mem_seen_iff {router : Router Client} {intake after : Intake Client}
    {listing : Listing} (received : router.Received intake listing after) (id : NodeId) :
    id ∈ after.seen ↔ id ∈ intake.seen ∨ id = listing.id := by
  cases received with
  | repeated seen =>
      rw [or_iff_left_of_imp]
      rintro rfl
      exact seen
  | kept | unreachable | created => rw [List.mem_cons, or_comm]

theorem mem_seen_iff (router : Router Client) (listings : List Listing) (id : NodeId) :
    id ∈ (router.receiveAll listings).seen ↔ id ∈ listings.map Listing.id := by
  induction listings using List.reverseRecOn with
  | nil => rfl
  | append_singleton listings listing ih =>
      rw [receiveAll_concat, (router.received _ listing).mem_seen_iff, ih, List.map_append,
        List.map_singleton, List.mem_append, List.mem_singleton]

/-- Who stands for an instance: the handle that was in its place, or one that was made for it. -/
inductive Stands (router : Router Client) (entry : Listing) (handle : Handle Client) : Prop where
  | kept (current : router.current? entry = some handle)
  | made (unknown : router.current? entry = none)
      (created : router.createClient entry.toNode = .ok handle.client)
      (node_eq : handle.node = entry.toNode)

theorem Stands.site_eq {router : Router Client} {entry : Listing} {handle : Handle Client}
    (stands : router.Stands entry handle) : handle.site = entry.site := by
  cases stands with
  | kept current => exact (current?_eq_some current).2
  | made unknown created node_eq =>
      unfold Handle.site Handle.id
      rw [node_eq]
      rfl

/-- Taking one instance in brings at most a handle that stands for it. -/
theorem Received.mem_handles {router : Router Client} {intake after : Intake Client}
    {listing : Listing} (received : router.Received intake listing after) {handle : Handle Client}
    (present : handle ∈ after.handles) :
    handle ∈ intake.handles ∨ listing.id ∉ intake.seen ∧ router.Stands listing handle := by
  cases received with
  | repeated | unreachable => exact .inl present
  | kept unseen other current =>
      rcases List.mem_append.mp present with earlier | new
      · exact .inl earlier
      · rw [List.mem_singleton.mp new]
        exact .inr ⟨unseen, .kept current⟩
  | created unseen unknown client made =>
      rcases List.mem_append.mp present with earlier | new
      · exact .inl earlier
      · rw [List.mem_singleton.mp new]
        exact .inr ⟨unseen, .made unknown made rfl⟩

theorem stands_receiveAll (router : Router Client) (listings : List Listing)
    {handle : Handle Client} (present : handle ∈ (router.receiveAll listings).handles) :
    ∃ entry, Listing.first? listings handle.id = some entry ∧ router.Stands entry handle := by
  induction listings using List.reverseRecOn with
  | nil => cases present
  | append_singleton listings listing ih =>
      rw [receiveAll_concat] at present
      rcases (router.received _ listing).mem_handles present with earlier | ⟨unseen, stands⟩
      · obtain ⟨entry, found, stands⟩ := ih earlier
        exact ⟨entry, Listing.first?_concat found listing, stands⟩
      · have named : handle.id = listing.id := congrArg Prod.fst stands.site_eq
        rw [mem_seen_iff] at unseen
        exact ⟨listing, named ▸ Listing.first?_concat_self unseen, stands⟩

/-! ### Handles and all lists -/

/-- Where a handle comes from. It was made in place of an instance when nobody was there, and every
list taken in since then has an instance in that place. -/
inductive Stems (first : Router Client) (lists : List (List Listing)) (handle : Handle Client) :
    Prop where
  | since (past : List (Operation Client × Answer Client)) (before : Router Client)
      (listings : List Listing) (later : List (List Listing)) (entry : Listing)
      (course : Course first past before)
      (split : lists = past.filterMap applied? ++ listings :: later)
      (found : Listing.first? listings handle.id = some entry)
      (unknown : before.current? entry = none)
      (created : before.createClient entry.toNode = .ok handle.client)
      (node_eq : handle.node = entry.toNode)
      (stayed : ∀ others, others ∈ later →
        ∃ again, Listing.first? others handle.id = some again ∧ handle.site = again.site)

section

variable {first router : Router Client} {events : List (Operation Client × Answer Client)}

theorem Stems.concat {lists : List (List Listing)} {handle : Handle Client}
    (stems : first.Stems lists handle) {others : List Listing} {again : Listing}
    (found : Listing.first? others handle.id = some again) (same : handle.site = again.site) :
    first.Stems (lists ++ [others]) handle := by
  obtain ⟨past, before, listings, later, entry, course, rfl, first?, unknown, created, node_eq,
    stayed⟩ := stems
  refine .since past before listings (later ++ [others]) entry course ?_ first? unknown created
    node_eq ?_
  · rw [List.append_assoc, List.cons_append]
  · intro list listed
    rcases List.mem_append.mp listed with earlier | last
    · exact stayed list earlier
    · rw [List.mem_singleton.mp last]
      exact ⟨again, found, same⟩

/-- Whoever is in the last list is where it says. -/
theorem Stems.last {lists : List (List Listing)} {handle : Handle Client}
    (stems : first.Stems lists handle) :
    ∃ listings entry, lists.getLast? = some listings ∧
      Listing.first? listings handle.id = some entry ∧ handle.site = entry.site := by
  obtain ⟨past, before, listings, later, entry, course, rfl, found, unknown, created, node_eq,
    stayed⟩ := stems
  rw [List.getLast?_append, List.getLast?_cons]
  cases last : later.getLast? with
  | none =>
      refine ⟨listings, entry, rfl, found, ?_⟩
      exact (Stands.made unknown created node_eq).site_eq
  | some others =>
      obtain ⟨again, foundAgain, same⟩ := stayed others (List.mem_of_getLast? last)
      exact ⟨others, again, rfl, foundAgain, same⟩

theorem stems_of_stride {event : Operation Client × Answer Client} {after : Router Client}
    (course : Course first events router) (stride : router.Stride event after)
    (stems : ∀ handle, handle ∈ router.cluster.nodes →
      first.Stems (events.filterMap applied?) handle) :
    ∀ handle, handle ∈ after.cluster.nodes →
      first.Stems ((events ++ [event]).filterMap applied?) handle := by
  intro handle present
  rw [List.filterMap_append]
  cases stride with
  | taken now listings admitted =>
      obtain ⟨entry, found, stands⟩ :=
        router.stands_receiveAll listings ((inIdOrder_perm _).mem_iff.mp present)
      cases stands with
      | kept current =>
          obtain ⟨old, same⟩ := current?_eq_some current
          exact (stems handle old).concat found same
      | made unknown created node_eq =>
          exact .since events router listings [] entry course rfl found unknown created node_eq
            (List.forall_mem_nil _)
  | quiet none unmoved =>
      rw [List.filterMap_cons_none none, List.filterMap_nil, List.append_nil]
      exact stems handle (unmoved.nodes_eq ▸ present)

theorem stems_of_course (empty : first.cluster.nodes = []) (course : Course first events router) :
    ∀ handle, handle ∈ router.cluster.nodes →
      first.Stems (events.filterMap applied?) handle := by
  induction course with
  | start =>
      intro handle present
      rw [empty] at present
      cases present
  | step course operation spared ih =>
      exact stems_of_stride course (stride_of_perform _ operation spared) ih
  | equip course createClient ih => exact ih
  | records course health ih => exact ih

end

/-- Whatever a new router went through, its cluster and its balancer hold the same handles, and each
of them has the id and the address of the first instance with its id in the list last taken in. All
else it has from the list that it was made by. -/
theorem sited_of_course {partitioner : Partitioner} {service : String} {settings : Settings}
    {createClient : Node → Except ServiceError Client} {created : Instant}
    {first router : Router Client} {events : List (Operation Client × Answer Client)}
    (success : create partitioner service settings createClient created = .ok first)
    (course : Course first events router) :
    router.balancer.handles = router.cluster.nodes ∧
      ∀ handle, handle ∈ router.cluster.nodes →
        (∃ listings entry, lastApplied events = some listings ∧
          Listing.first? listings handle.id = some entry ∧ handle.site = entry.site) ∧
        first.Stems (events.filterMap applied?) handle := by
  obtain ⟨-, -, empty, -⟩ := create_eq_ok success
  refine ⟨((tidy_of_create success).course course).handles_eq, ?_⟩
  intro handle present
  have stems := stems_of_course empty course handle present
  exact ⟨stems.last, stems⟩

def tagged (tags : List String) : List Listing :=
  [⟨"ab", "h:1", tags⟩]

def oldLabel : Handle Unit :=
  { serial := 0, node := ⟨"ab", "h:1", ["old"]⟩, client := () }

def labelled : Router Unit :=
  newcomer.following 0 (tagged ["old"])

def relabelled : Router Unit :=
  labelled.following 5 (tagged ["new"])

theorem nodes_labelled : labelled.cluster.nodes = [oldLabel] :=
  List.mergeSort_singleton _

theorem nodes_relabelled : relabelled.cluster.nodes = [oldLabel] := by
  have received : (labelled.receiveAll (tagged ["new"])).handles = [oldLabel] := by
    unfold receiveAll tagged
    rw [List.foldl_cons, List.foldl_nil]
    unfold receive current?
    rw [nodes_labelled]
    rfl
  change inIdOrder (labelled.receiveAll (tagged ["new"])).handles = _
  rw [received]
  exact List.mergeSort_singleton _

theorem course_relabelled :
    ∃ events, Course newcomer events relabelled ∧
      events.filterMap applied? = [tagged ["old"], tagged ["new"]] := by
  have new := settled_of_create create_newcomer
  obtain ⟨_, first⟩ := Run.start.take 0 (tagged ["old"])
    (admits_incoming_newcomer new (by decide) (by decide))
  obtain ⟨_, second⟩ := first.take 5 (tagged ["new"])
    (admits_incoming_newcomer (new.run steady_addressed first) (by decide) (by decide))
  exact ⟨_, second.course, rfl⟩

/-- The handle has the address that the last list gives it. -/
theorem sited_when_relabelled :
    create (Blueprint.ofLengths 2 2).partitioner "users" Cluster.oneStrike addressed 0 =
        .ok newcomer ∧
      ∃ events, Course newcomer events relabelled ∧ oldLabel ∈ relabelled.cluster.nodes ∧
        (∃ listings entry, lastApplied events = some listings ∧
          Listing.first? listings "ab" = some entry ∧ oldLabel.site = entry.site) ∧
        newcomer.Stems (events.filterMap applied?) oldLabel := by
  obtain ⟨events, course, -⟩ := course_relabelled
  obtain ⟨-, sited⟩ := sited_of_course create_newcomer course
  have present : oldLabel ∈ relabelled.cluster.nodes :=
    nodes_relabelled ▸ List.mem_singleton_self _
  exact ⟨create_newcomer, events, course, present, sited oldLabel present⟩

/-- Its tags are still the old ones, though the last list gives it new ones. -/
theorem old_tags_when_relabelled :
    ∃ events, Course newcomer events relabelled ∧
      events.filterMap applied? = [tagged ["old"], tagged ["new"]] ∧
      oldLabel ∈ relabelled.cluster.nodes ∧
      ∃ entry, Listing.first? (tagged ["new"]) oldLabel.id = some entry ∧
        oldLabel.node ≠ entry.toNode ∧
        oldLabel.node.tags = ["old"] ∧ entry.toNode.tags = ["new"] := by
  obtain ⟨events, course, lists⟩ := course_relabelled
  exact ⟨events, course, lists, nodes_relabelled ▸ List.mem_singleton_self _,
    ⟨"ab", "h:1", ["new"]⟩, by decide, by decide, rfl, rfl⟩

end Router

end QuorumRouting
