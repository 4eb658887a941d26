import QuorumRouting.Proofs.Service.Course
import QuorumRouting.Proofs.Service.Working

/-!
What an update accounts for. An update counts the instances of a list as added, kept or skipped, and
the handles that the router had as kept or removed. Nobody is left out of either count, and those
who are kept are the very handles that were there, with their weights. An update that adds and
removes nobody leaves the nodes as they are, and no other update does.
-/

set_option autoImplicit false

namespace QuorumRouting

variable {Client : Type}

/-- What two lists share is as much from either side. -/
theorem length_filter_mem_comm {Item : Type} [DecidableEq Item] {items others : List Item}
    (distinct : items.Nodup) (othersDistinct : others.Nodup) :
    (items.filter (· ∈ others)).length = (others.filter (· ∈ items)).length := by
  apply List.Perm.length_eq
  rw [List.perm_ext_iff_of_nodup (distinct.filter _) (othersDistinct.filter _)]
  intro item
  simp only [List.mem_filter, decide_eq_true_eq]
  exact and_comm

theorem RouterUpdate.isChange_eq_false_iff (update : RouterUpdate) :
    update.isChange = false ↔ update.added = 0 ∧ update.removed = 0 := by
  unfold isChange
  rw [Bool.or_eq_false_iff, decide_eq_false_iff_not, decide_eq_false_iff_not, Nat.not_lt,
    Nat.not_lt, Nat.le_zero, Nat.le_zero]

namespace Router

/-! ### Counts of a list that is being taken in -/

/-- What was counted once some instances were taken in. The handles kept are those that have their
serial numbers from before. -/
structure Counted (router : Router Client) (listings : List Listing) (intake : Intake Client) :
    Prop where
  every_listing : intake.added + intake.kept + intake.skipped = listings.length
  every_handle : intake.added + intake.kept = intake.handles.length
  kept_eq : intake.kept = intake.handles.countP (fun handle => handle.serial < router.made)

theorem Counted.received {router : Router Client} (numbered : router.Numbered)
    {listings : List Listing} {intake after : Intake Client} {listing : Listing}
    (counted : router.Counted listings intake) (grown : router.made ≤ intake.made)
    (received : router.Received intake listing after) :
    router.Counted (listings ++ [listing]) after := by
  obtain ⟨everyListing, everyHandle, keptEq⟩ := counted
  have longer : (listings ++ [listing]).length = listings.length + 1 := List.length_append
  cases received with
  | repeated | unreachable =>
      refine ⟨?_, everyHandle, keptEq⟩
      dsimp only
      omega
  | kept unseen handle current =>
      have old : handle.serial < router.made :=
        numbered.issued handle (current?_eq_some current).1
      constructor
      · dsimp only
        omega
      · rw [List.length_append, List.length_singleton, ← everyHandle]
        exact (Nat.add_assoc _ _ _).symm
      · rw [List.countP_append, List.countP_singleton, ← keptEq, if_pos (decide_eq_true old)]
  | created unseen unknown client made =>
      have new : ¬ intake.made < router.made := Nat.not_lt.mpr grown
      constructor
      · dsimp only
        omega
      · rw [List.length_append, List.length_singleton, ← everyHandle]
        exact Nat.add_right_comm _ _ _
      · rw [List.countP_append, List.countP_singleton, ← keptEq,
          if_neg (fun early => new (of_decide_eq_true early))]
        rfl

theorem counted_receiveAll {router : Router Client} (numbered : router.Numbered)
    (listings : List Listing) : router.Counted listings (router.receiveAll listings) := by
  induction listings using List.reverseRecOn with
  | nil => exact ⟨rfl, rfl, rfl⟩
  | append_singleton listings listing ih =>
      rw [receiveAll_concat]
      exact ih.received numbered (router.made_le_receiveAll listings) (router.received _ listing)

theorem length_incoming (router : Router Client) (listings : List Listing) :
    (router.incoming listings).length = (router.receiveAll listings).handles.length :=
  (inIdOrder_perm _).length_eq

/-- Handles in the order of their ids are known by who is among them. -/
theorem eq_of_increasing {handles others : List (Handle Client)}
    (increasing : (handles.map Handle.id).Pairwise (· < ·))
    (othersIncreasing : (others.map Handle.id).Pairwise (· < ·))
    (alike : ∀ handle, handle ∈ handles ↔ handle ∈ others) : handles = others := by
  have distinct {nodes : List (Handle Client)}
      (sorted : (nodes.map Handle.id).Pairwise (· < ·)) : nodes.Nodup :=
    List.Nodup.of_map Handle.id (sorted.imp ne_of_lt)
  refine List.Perm.eq_of_pairwise ?_ (List.pairwise_map.mp increasing)
    (List.pairwise_map.mp othersIncreasing) ?_
  · intro first second _ _ before after
    exact absurd after before.asymm
  · exact (List.perm_ext_iff_of_nodup (distinct increasing) (distinct othersIncreasing)).mpr alike

/-! ### Counts of the handles before and after -/

section

variable [DecidableEq Client] {router : Router Client}

theorem kept_eq_length (numbered : router.Numbered) (listings : List Listing) :
    (router.receiveAll listings).kept =
      ((router.incoming listings).filter (· ∈ router.cluster.nodes)).length := by
  have issued := issued_receiveAll numbered listings
  let handles := (router.receiveAll listings).handles
  calc (router.receiveAll listings).kept
      = handles.countP (fun handle => handle.serial < router.made) :=
        (counted_receiveAll numbered listings).kept_eq
    _ = handles.countP (· ∈ router.cluster.nodes) := by
        apply List.countP_congr
        intro handle taken
        rw [decide_eq_true_iff, decide_eq_true_iff]
        constructor
        · intro old
          exact (issued.origin handle taken).resolve_right (Nat.not_le.mpr old)
        · intro present
          exact numbered.issued handle present
    _ = (router.incoming listings).countP (· ∈ router.cluster.nodes) :=
        ((inIdOrder_perm handles).countP_eq _).symm
    _ = ((router.incoming listings).filter (· ∈ router.cluster.nodes)).length :=
        List.countP_eq_length_filter

theorem kept_eq_length_of_nodes (numbered : router.Numbered) (listings : List Listing) :
    (router.receiveAll listings).kept =
      (router.cluster.nodes.filter (· ∈ router.incoming listings)).length := by
  rw [kept_eq_length numbered]
  exact length_filter_mem_comm (router.distinct_incoming listings).of_map
    numbered.distinct.of_map

theorem kept_le (numbered : router.Numbered) (listings : List Listing) :
    (router.receiveAll listings).kept ≤ router.cluster.nodes.length := by
  rw [kept_eq_length_of_nodes numbered]
  exact List.length_filter_le _ _

theorem removed_eq_length (numbered : router.Numbered) (listings : List Listing) :
    (router.tally listings).removed =
      (router.cluster.nodes.filter (· ∉ router.incoming listings)).length := by
  have parts := List.length_eq_length_filter_add (l := router.cluster.nodes)
    (fun handle => decide (handle ∈ router.incoming listings))
  rw [← kept_eq_length_of_nodes numbered] at parts
  simp only [decide_not]
  exact Nat.sub_eq_of_eq_add' parts

/-- Nobody new and nobody gone makes the same nodes, because there is one way to order them. -/
theorem incoming_eq_iff (tidy : router.Tidy) (listings : List Listing) :
    router.incoming listings = router.cluster.nodes ↔
      (router.tally listings).added = 0 ∧ (router.tally listings).removed = 0 := by
  have numbered := tidy.numbered
  have counted := counted_receiveAll numbered listings
  have kept := kept_eq_length numbered listings
  have removed := removed_eq_length numbered listings
  have everybody : (router.tally listings).added + (router.receiveAll listings).kept =
      (router.incoming listings).length :=
    counted.every_handle.trans (router.length_incoming listings).symm
  constructor
  · intro same
    rw [same, List.filter_eq_self.mpr (fun handle present => decide_eq_true present)] at kept
    rw [same] at everybody removed
    constructor
    · omega
    · rw [removed, List.length_eq_zero_iff, List.filter_eq_nil_iff]
      intro handle present absent
      exact of_decide_eq_true absent present
  · rintro ⟨nobodyNew, nobodyGone⟩
    have old : ∀ handle, handle ∈ router.incoming listings → handle ∈ router.cluster.nodes := by
      rw [nobodyNew, Nat.zero_add, kept, List.length_filter_eq_length_iff] at everybody
      exact fun handle taken => of_decide_eq_true (everybody handle taken)
    have still : ∀ handle, handle ∈ router.cluster.nodes → handle ∈ router.incoming listings := by
      rw [nobodyGone, eq_comm, List.length_eq_zero_iff, List.filter_eq_nil_iff] at removed
      exact fun handle present =>
        Decidable.not_not.mp (fun absent => removed handle present (decide_eq_true absent))
    exact eq_of_increasing (inIdOrder_increasing (router.noted_receiveAll listings).distinct)
      tidy.increasing (fun handle => ⟨old handle, still handle⟩)

structure Accounts (router : Router Client) (listings : List Listing) (after : Router Client)
    (update : RouterUpdate) : Prop where
  every_listing : update.added + update.kept + update.skipped = listings.length
  every_node : update.added + update.kept = after.cluster.nodes.length
  every_former_node : update.removed + update.kept = router.cluster.nodes.length
  removed_eq : update.removed =
    (router.cluster.nodes.filter (· ∉ after.cluster.nodes)).length
  kept_eq : update.kept = (after.cluster.nodes.filter (· ∈ router.cluster.nodes)).length
  handles_eq : after.balancer.handles = after.cluster.nodes
  kept_weights : ∀ entry, entry ∈ after.balancer.entries →
    entry.handle ∈ router.cluster.nodes → entry ∈ router.balancer.entries
  isChange_iff : update.isChange = false ↔ after.cluster.nodes = router.cluster.nodes

theorem Tidy.accounts (tidy : router.Tidy) (now : Instant) (listings : List Listing) :
    router.Accounts listings (router.following now listings) (router.tally listings) := by
  have numbered := tidy.numbered
  have counted := counted_receiveAll numbered listings
  refine
    { every_listing := counted.every_listing
      every_node := counted.every_handle.trans (router.length_incoming listings).symm
      every_former_node := Nat.sub_add_cancel (kept_le numbered listings)
      removed_eq := removed_eq_length numbered listings
      kept_eq := kept_eq_length numbered listings
      handles_eq := router.handles_following now listings
      kept_weights := ?_
      isChange_iff := ?_ }
  · intro entry weighed present
    obtain ⟨handle, -, rfl⟩ := List.mem_map.mp weighed
    rw [← tidy.handles_eq] at present
    rw [← map_weightOf (tidy.handles_eq ▸ numbered.distinct)]
    exact List.mem_map_of_mem present
  · rw [RouterUpdate.isChange_eq_false_iff]
    exact (incoming_eq_iff tidy listings).symm

/-- Whatever a new router went through, taking a list in never counts more handles as kept than
there are, and an update accounts for the list and for the handles. A list that leads to no update
leads to too many nodes, and leaves those that were there. -/
theorem accounts_of_course {partitioner : Partitioner} {service : String} {settings : Settings}
    {createClient : Node → Except ServiceError Client} {created : Instant}
    {first router : Router Client} {events : List (Operation Client × Answer Client)}
    (success : create partitioner service settings createClient created = .ok first)
    (course : Course first events router) (now : Instant) (listings : List Listing) :
    (router.receiveAll listings).kept ≤ router.cluster.nodes.length ∧
      ((∃ after update, router.apply now listings = (after, .ok update) ∧
          router.Accounts listings after update) ∨
        ∃ after failure, router.apply now listings = (after, .error failure) ∧
          after.cluster = router.cluster ∧ after.balancer = router.balancer ∧
          (failure = .refused (.invalidNode "too many nodes for one ring") ∧
              Blueprint.largestNodeCount < (router.incoming listings).length ∨
            (∃ cause, failure = .overflowed cause) ∧
              (router.incoming listings).length ≤ Blueprint.largestNodeCount)) := by
  have tidy := (tidy_of_create success).course course
  have virtualNodes_pos := tidy.admits.virtualNodes_pos
  have quorumSize_pos := tidy.admits.quorumSize_pos
  refine ⟨kept_le tidy.numbered listings, ?_⟩
  by_cases admitted : router.cluster.blueprint.Admits (router.incoming listings)
  · exact .inl ⟨_, _, router.apply_eq_of_admits now listings admitted,
      tidy.accounts now listings⟩
  · obtain ⟨failure, unbuilt, refused⟩ := router.apply_of_not_admits now listings admitted
    refine .inr ⟨_, failure, refused, rfl, rfl, ?_⟩
    rcases Nat.lt_or_ge Blueprint.largestNodeCount (router.incoming listings).length with
      many | few
    · rw [Blueprint.build_of_crowd virtualNodes_pos quorumSize_pos many] at unbuilt
      exact .inl ⟨(Except.error.inj unbuilt).symm, many⟩
    · exact .inr ⟨Blueprint.overflowed_of_build virtualNodes_pos quorumSize_pos few
        (router.distinct_incoming listings) unbuilt, few⟩

end

def stirred : List Listing :=
  [⟨"c", "h:2", []⟩, ⟨"ab", "h:3", []⟩, ⟨"c", "h:9", []⟩, ⟨"d", "", []⟩]

theorem accounts_when_stirred :
    create (Blueprint.ofLengths 2 2).partitioner "users" Cluster.oneStrike addressed 0 =
        .ok newcomer ∧
      (∃ events, Course newcomer events peopled) ∧
      ∃ after update, peopled.apply 5 stirred = (after, .ok update) ∧
        peopled.Accounts stirred after update ∧
        update = { added := 1, removed := 1, kept := 1, skipped := 2 } := by
  obtain ⟨events, run⟩ := run_peopled
  have settled := (settled_of_create create_newcomer).run steady_addressed run
  have applied := peopled.apply_eq_of_admits 5 stirred
    (admits_usable_newcomer settled (by decide))
  obtain ⟨-, ⟨after, update, taken, accounts⟩ | ⟨after, failure, refused, -⟩⟩ :=
    accounts_of_course create_newcomer run.course 5 stirred
  · refine ⟨create_newcomer, ⟨events, run.course⟩, after, update, taken, accounts, ?_⟩
    rw [applied] at taken
    exact (Except.ok.inj (congrArg Prod.snd taken)).symm
  · rw [applied] at refused
    cases congrArg Prod.snd refused

end Router

end QuorumRouting
