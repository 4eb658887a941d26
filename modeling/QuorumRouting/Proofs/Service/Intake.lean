import Mathlib.Data.List.Induction
import Mathlib.Data.String.Basic
import QuorumRouting.Service.Router

/-!
How a router takes a list of instances in. Of each id only the first instance counts, and it counts
if its client can be made. What is in the list decides where the resulting handles are; which
handles were there before decides at most who they are.
-/

set_option autoImplicit false

namespace QuorumRouting

variable {Client : Type}

/-- What tells instances apart: an id and an address. -/
def Listing.site (listing : Listing) : NodeId × String :=
  (listing.id, listing.address)

def Listing.firsts (seen : List NodeId) : List Listing → List Listing
  | [] => []
  | listing :: rest =>
      if listing.id ∈ seen then firsts seen rest
      else listing :: firsts (listing.id :: seen) rest

theorem Listing.firsts_of_nodup (seen : List NodeId) (listings : List Listing)
    (distinct : (listings.map id).Nodup)
    (fresh : ∀ listing, listing ∈ listings → listing.id ∉ seen) :
    firsts seen listings = listings := by
  induction listings generalizing seen with
  | nil => rfl
  | cons listing rest ih =>
      rw [List.map_cons, List.nodup_cons] at distinct
      unfold firsts
      rw [if_neg (fresh listing List.mem_cons_self), ih _ distinct.2]
      intro other listed
      rw [List.mem_cons, not_or]
      refine ⟨?_, fresh other (List.mem_cons_of_mem _ listed)⟩
      intro same
      exact distinct.1 (same ▸ List.mem_map_of_mem listed)

def Handle.site (handle : Handle Client) : NodeId × String :=
  (handle.id, handle.node.address)

theorem Handle.ids_of_sites {nodes others : List (Handle Client)}
    (same : nodes.map site = others.map site) : nodes.map Handle.id = others.map Handle.id := by
  have ids := congrArg (List.map Prod.fst) same
  rw [List.map_map, List.map_map] at ids
  exact ids

/-- Can a client be made for every node, or for none, that has the same id and address? -/
def Steady (createClient : Node → Except ServiceError Client) : Prop :=
  ∀ one other : Node, one.id = other.id → one.address = other.address →
    (createClient one).isOk = (createClient other).isOk

namespace Router

def Renewable (router : Router Client) : Prop :=
  ∀ node, node ∈ router.cluster.nodes → (router.createClient node.node).isOk = true

def reachable (router : Router Client) (listings : List Listing) : List Listing :=
  listings.filter (fun listing => (router.createClient listing.toNode).isOk)

/-- The instances of a list that count: the first of each id, if it is reachable. -/
def usable (router : Router Client) (listings : List Listing) : List Listing :=
  router.reachable (Listing.firsts [] listings)

theorem receive_of_seen (router : Router Client) {intake : Intake Client} {listing : Listing}
    (seen : listing.id ∈ intake.seen) :
    (router.receive intake listing).seen = intake.seen ∧
      (router.receive intake listing).handles = intake.handles := by
  unfold receive
  rw [if_pos seen]
  exact ⟨rfl, rfl⟩

theorem current?_eq_some {router : Router Client} {listing : Listing} {handle : Handle Client}
    (current : router.current? listing = some handle) :
    handle ∈ router.cluster.nodes ∧ handle.site = listing.site := by
  have found := List.find?_some current
  obtain ⟨sameId, sameAddress⟩ := of_decide_eq_true found
  exact ⟨List.mem_of_find?_eq_some current, Prod.ext sameId sameAddress⟩

inductive Received (router : Router Client) (intake : Intake Client) (listing : Listing) :
    Intake Client → Prop where
  | repeated (seen : listing.id ∈ intake.seen) :
      Received router intake listing { intake with skipped := intake.skipped + 1 }
  | kept (unseen : listing.id ∉ intake.seen) (handle : Handle Client)
      (current : router.current? listing = some handle) :
      Received router intake listing
        { intake with
          seen := listing.id :: intake.seen
          handles := intake.handles ++ [handle]
          kept := intake.kept + 1 }
  | unreachable (unseen : listing.id ∉ intake.seen) (unknown : router.current? listing = none)
      (reason : ServiceError) (unmade : router.createClient listing.toNode = .error reason) :
      Received router intake listing
        { intake with
          seen := listing.id :: intake.seen
          skipped := intake.skipped + 1 }
  | created (unseen : listing.id ∉ intake.seen) (unknown : router.current? listing = none)
      (client : Client) (made : router.createClient listing.toNode = .ok client) :
      Received router intake listing
        { intake with
          seen := listing.id :: intake.seen
          handles := intake.handles ++
            [{ serial := intake.made, node := listing.toNode, client := client }]
          added := intake.added + 1
          made := intake.made + 1 }

theorem received (router : Router Client) (intake : Intake Client) (listing : Listing) :
    router.Received intake listing (router.receive intake listing) := by
  unfold receive
  by_cases seen : listing.id ∈ intake.seen
  · rw [if_pos seen]
    exact .repeated seen
  · rw [if_neg seen]
    cases current : router.current? listing with
    | some handle => exact .kept seen handle current
    | none =>
        dsimp only
        cases created : router.createClient listing.toNode with
        | error reason => exact .unreachable seen current reason created
        | ok client => exact .created seen current client created

structure Noted (intake : Intake Client) : Prop where
  distinct : (intake.handles.map Handle.id).Nodup
  noted : ∀ id, id ∈ intake.handles.map Handle.id → id ∈ intake.seen

theorem Noted.concat {intake : Intake Client} (noted : Noted intake) {listing : Listing}
    (unseen : listing.id ∉ intake.seen) {handle : Handle Client} (named : handle.id = listing.id)
    {after : Intake Client} (seen_eq : after.seen = listing.id :: intake.seen)
    (handles_eq : after.handles = intake.handles ++ [handle]) : Noted after := by
  constructor
  · rw [handles_eq, List.map_append, List.map_singleton, named,
      List.perm_append_comm.nodup_iff, List.singleton_append, List.nodup_cons]
    exact ⟨fun present => unseen (noted.noted _ present), noted.distinct⟩
  · intro id present
    rw [handles_eq, List.map_append, List.map_singleton, named, List.mem_append,
      List.mem_singleton] at present
    rw [seen_eq]
    rcases present with earlier | rfl
    · exact List.mem_cons_of_mem _ (noted.noted id earlier)
    · exact List.mem_cons_self

theorem Noted.received {router : Router Client} {intake after : Intake Client} {listing : Listing}
    (noted : Noted intake) (received : router.Received intake listing after) : Noted after := by
  cases received with
  | repeated => exact ⟨noted.distinct, noted.noted⟩
  | unreachable =>
      exact ⟨noted.distinct, fun id present => List.mem_cons_of_mem _ (noted.noted id present)⟩
  | kept unseen handle current =>
      exact noted.concat unseen (congrArg Prod.fst (current?_eq_some current).2) rfl rfl
  | created unseen => exact noted.concat unseen rfl rfl rfl

theorem receiveAll_concat (router : Router Client) (listings : List Listing) (listing : Listing) :
    router.receiveAll (listings ++ [listing]) =
      router.receive (router.receiveAll listings) listing :=
  List.foldl_concat _ _ _ _

theorem noted_receiveAll (router : Router Client) (listings : List Listing) :
    Noted (router.receiveAll listings) := by
  induction listings using List.reverseRecOn with
  | nil => exact ⟨List.nodup_nil, fun id none => none⟩
  | append_singleton listings listing ih =>
      rw [receiveAll_concat]
      exact ih.received (router.received _ listing)

section

variable {router : Router Client} (steady : Steady router.createClient)
  (renewable : router.Renewable)

include steady renewable

/-- An instance with a new id leaves a handle in its place if its client can be made, be the handle
new or kept, and otherwise nothing. -/
theorem receive_of_unseen {intake : Intake Client} {listing : Listing}
    (unseen : listing.id ∉ intake.seen) :
    (router.receive intake listing).seen = listing.id :: intake.seen ∧
      (((router.createClient listing.toNode).isOk = false ∧
          (router.receive intake listing).handles = intake.handles) ∨
        ((router.createClient listing.toNode).isOk = true ∧
          ∃ handle, handle.site = listing.site ∧
            (router.createClient handle.node).isOk = true ∧
            (router.receive intake listing).handles = intake.handles ++ [handle])) := by
  unfold receive
  rw [if_neg unseen]
  cases current : router.current? listing with
  | some handle =>
      obtain ⟨present, same⟩ := current?_eq_some current
      have made := renewable handle present
      have again : (router.createClient listing.toNode).isOk = true :=
        (steady handle.node listing.toNode (congrArg Prod.fst same)
          (congrArg Prod.snd same)).symm.trans made
      exact ⟨rfl, .inr ⟨again, handle, same, made, rfl⟩⟩
  | none =>
      dsimp only
      cases created : router.createClient listing.toNode with
      | error reason => exact ⟨rfl, .inl ⟨rfl, rfl⟩⟩
      | ok client =>
          refine ⟨rfl, .inr ⟨rfl, _, ?_, ?_, rfl⟩⟩
          · rfl
          · rw [created]
            rfl

end

structure Orderly (router : Router Client) (intake : Intake Client) : Prop where
  distinct : (intake.handles.map Handle.id).Nodup
  noted : ∀ id, id ∈ intake.handles.map Handle.id → id ∈ intake.seen
  renewable : ∀ handle, handle ∈ intake.handles →
    (router.createClient handle.node).isOk = true

section

variable {router : Router Client} (steady : Steady router.createClient)
  (renewable : router.Renewable)

include steady renewable

theorem renewable_receive {intake : Intake Client}
    (remade : ∀ handle, handle ∈ intake.handles → (router.createClient handle.node).isOk = true)
    (listing : Listing) :
    ∀ handle, handle ∈ (router.receive intake listing).handles →
      (router.createClient handle.node).isOk = true := by
  by_cases seen : listing.id ∈ intake.seen
  · rw [(router.receive_of_seen seen).2]
    exact remade
  · obtain ⟨-, ⟨-, taken⟩ | ⟨-, handle, -, made, taken⟩⟩ :=
      receive_of_unseen steady renewable seen
    · rw [taken]
      exact remade
    · rw [taken]
      exact List.forall_mem_append.mpr ⟨remade, List.forall_mem_singleton.mpr made⟩

theorem renewable_receiveAll (listings : List Listing) :
    ∀ handle, handle ∈ (router.receiveAll listings).handles →
      (router.createClient handle.node).isOk = true := by
  induction listings using List.reverseRecOn with
  | nil => exact List.forall_mem_nil _
  | append_singleton listings listing ih =>
      rw [receiveAll_concat]
      exact renewable_receive steady renewable ih listing

theorem Orderly.receiveAll (listings : List Listing) :
    router.Orderly (router.receiveAll listings) :=
  ⟨(router.noted_receiveAll listings).distinct, (router.noted_receiveAll listings).noted,
    renewable_receiveAll steady renewable listings⟩

theorem sites_receiveAll_usable (listings : List Listing) :
    (router.receiveAll listings).handles.map Handle.site =
      (router.usable listings).map Listing.site := by
  have all (intake : Intake Client) :
      (listings.foldl router.receive intake).handles.map Handle.site =
        intake.handles.map Handle.site ++
          (router.reachable (Listing.firsts intake.seen listings)).map Listing.site := by
    induction listings generalizing intake with
    | nil => exact (List.append_nil _).symm
    | cons listing rest ih =>
        unfold Listing.firsts
        rw [List.foldl_cons, ih]
        by_cases seen : listing.id ∈ intake.seen
        · obtain ⟨sameSeen, sameHandles⟩ := router.receive_of_seen seen
          rw [if_pos seen, sameSeen, sameHandles]
        · obtain ⟨noted, received⟩ := receive_of_unseen steady renewable seen
          rw [if_neg seen, noted]
          unfold reachable
          rcases received with ⟨unmade, taken⟩ | ⟨made, handle, same, -, taken⟩
          · rw [taken, List.filter_cons, if_neg (ne_true_of_eq_false unmade)]
          · rw [taken, List.filter_cons, if_pos made, List.map_append, List.map_singleton, same,
              List.append_assoc]
            rfl
  exact all _

theorem sites_receiveAll (listings : List Listing) (distinct : (listings.map Listing.id).Nodup) :
    (router.receiveAll listings).handles.map Handle.site =
      (router.reachable listings).map Listing.site := by
  rw [sites_receiveAll_usable steady renewable]
  unfold usable
  rw [Listing.firsts_of_nodup [] listings distinct (fun listing _ => List.not_mem_nil)]

end

/-! ### The order of handles -/

theorem inIdOrder_perm (handles : List (Handle Client)) : (inIdOrder handles).Perm handles :=
  List.mergeSort_perm handles _

theorem inIdOrder_increasing {handles : List (Handle Client)}
    (distinct : (handles.map Handle.id).Nodup) :
    ((inIdOrder handles).map Handle.id).Pairwise (· < ·) := by
  have sorted : (inIdOrder handles).Pairwise
      (fun first second => (!decide (second.id < first.id)) = true) := by
    apply List.pairwise_mergeSort
    · intro first second third before after
      simp only [Bool.not_eq_true', decide_eq_false_iff_not, not_lt] at before after ⊢
      exact before.trans after
    · intro first second
      simp only [Bool.or_eq_true, Bool.not_eq_true', decide_eq_false_iff_not, not_lt]
      exact le_total first.id second.id
  have different : ((inIdOrder handles).map Handle.id).Nodup :=
    ((inIdOrder_perm handles).map Handle.id).nodup_iff.mpr distinct
  rw [List.pairwise_map]
  refine (sorted.and (List.pairwise_map.mp different)).imp ?_
  intro first second both
  simp only [Bool.not_eq_true', decide_eq_false_iff_not, not_lt] at both
  exact lt_of_le_of_ne both.1 both.2

theorem pairwise_sites {handles : List (Handle Client)}
    (increasing : (handles.map Handle.id).Pairwise (· < ·)) :
    (handles.map Handle.site).Pairwise (fun first second => first.1 < second.1) :=
  List.pairwise_map.mpr (List.pairwise_map.mp increasing)

/-- There is one way to put sites in the order of their ids. -/
theorem sites_eq_of_perm {sites others : List (NodeId × String)}
    (increasing : sites.Pairwise (fun first second => first.1 < second.1))
    (othersIncreasing : others.Pairwise (fun first second => first.1 < second.1))
    (perm : sites.Perm others) : sites = others := by
  refine List.Perm.eq_of_pairwise ?_ increasing othersIncreasing perm
  intro first second _ _ before after
  exact absurd after before.asymm

end Router

end QuorumRouting
