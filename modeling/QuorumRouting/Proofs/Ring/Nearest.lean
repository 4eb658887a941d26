import Mathlib.Data.List.Sigma
import QuorumRouting.Proofs.Ring.Building
import QuorumRouting.Proofs.Ring.Distinct
import QuorumRouting.Proofs.Ring.Walk

/-!
A quorum holds the nearest nodes. The distance of a node from a token is the least of the distances
of its virtual nodes; nodes are compared by their distances, and nodes of one distance by their
positions in the list of nodes. The quorum of a key is a beginning of the list of nodes in this
order, and the node of the key is the head of its quorum.
-/

set_option autoImplicit false

namespace QuorumRouting

variable {Client : Type}

namespace Blueprint

def distances (blueprint : Blueprint) (token : Token) (id : NodeId) : List Nat :=
  (List.range blueprint.virtualNodes).map (fun index =>
    (token.distanceTo (blueprint.partitioner.token (VirtualNode.placementKey id index))).toNat)

/-- The shortest way clockwise from a token to a node. A blueprint without virtual nodes builds no
ring. -/
def leastDistance (blueprint : Blueprint) (token : Token) (id : NodeId) : Nat :=
  (blueprint.distances token id).min?.getD 0

def noFarther (blueprint : Blueprint) (token : Token) (first second : Handle Client × Nat) : Bool :=
  blueprint.leastDistance token first.1.id < blueprint.leastDistance token second.1.id ||
    (blueprint.leastDistance token first.1.id = blueprint.leastDistance token second.1.id &&
      first.2 ≤ second.2)

def nearestFirst (blueprint : Blueprint) (nodes : List (Handle Client)) (token : Token) :
    List (Handle Client) :=
  (nodes.zipIdx.mergeSort (blueprint.noFarther token)).map Prod.fst

theorem leastDistance_spec (blueprint : Blueprint) (token : Token) (id : NodeId)
    (placed : 0 < blueprint.virtualNodes) :
    blueprint.leastDistance token id ∈ blueprint.distances token id ∧
      ∀ distance, distance ∈ blueprint.distances token id →
        blueprint.leastDistance token id ≤ distance := by
  unfold leastDistance
  cases least : (blueprint.distances token id).min? with
  | none =>
      rw [List.min?_eq_none_iff, distances, List.map_eq_nil_iff, List.range_eq_nil] at least
      omega
  | some distance => exact List.min?_eq_some_iff.mp least

theorem noFarther_trans (blueprint : Blueprint) (token : Token)
    (first second third : Handle Client × Nat)
    (before : blueprint.noFarther token first second = true)
    (after : blueprint.noFarther token second third = true) :
    blueprint.noFarther token first third = true := by
  simp only [noFarther, Bool.or_eq_true, Bool.and_eq_true, decide_eq_true_eq] at *
  omega

theorem noFarther_total (blueprint : Blueprint) (token : Token)
    (first second : Handle Client × Nat) :
    (blueprint.noFarther token first second || blueprint.noFarther token second first) = true := by
  simp only [noFarther, Bool.or_eq_true, Bool.and_eq_true, decide_eq_true_eq]
  omega

theorem nearestFirst_perm (blueprint : Blueprint) (nodes : List (Handle Client)) (token : Token) :
    (blueprint.nearestFirst nodes token).Perm nodes := by
  have sorted := (List.mergeSort_perm nodes.zipIdx (blueprint.noFarther token)).map Prod.fst
  rw [List.zipIdx_map_fst] at sorted
  exact sorted

theorem mem_places_iff (blueprint : Blueprint) (nodes : List (Handle Client))
    (place : VirtualNode) :
    place ∈ (blueprint.ring nodes).places ↔
      ∃ node, nodes[place.slot]? = some node ∧ ∃ index, index < blueprint.virtualNodes ∧
        place = VirtualNode.place blueprint.partitioner node.id place.slot index := by
  change place ∈ (blueprint.unsortedPlaces nodes).mergeSort VirtualNode.atMost ↔ _
  rw [List.mem_mergeSort, unsortedPlaces, List.mem_flatMap]
  constructor
  · rintro ⟨⟨node, slot⟩, entry, member⟩
    obtain ⟨index, indexMember, same⟩ := List.mem_map.mp member
    subst same
    exact ⟨node, List.mem_zipIdx_iff_getElem?.mp entry, index,
      List.mem_range.mp indexMember, rfl⟩
  · rintro ⟨node, atSlot, index, bound, same⟩
    exact ⟨(node, place.slot), List.mem_zipIdx_iff_getElem?.mpr atSlot,
      List.mem_map.mpr ⟨index, List.mem_range.mpr bound, same.symm⟩⟩

end Blueprint

/-- All slots of a ring in the order in which a token's walk meets them. -/
def Ring.slotsMet (ring : Ring Client) (token : Token) : List Nat :=
  ((ring.walk token).map VirtualNode.slot).eraseDups

theorem Ring.quorumSlots_eq (ring : Ring Client) (token : Token) :
    ring.quorumSlots token = (ring.slotsMet token).take (min ring.quorumSize ring.nodeCount) :=
  firstDifferent_eq_take _ _

namespace Blueprint

theorem slotsMet_perm (blueprint : Blueprint) (nodes : List (Handle Client)) (token : Token)
    (placed : 0 < blueprint.virtualNodes) :
    ((blueprint.ring nodes).slotsMet token).Perm (List.range nodes.length) := by
  apply (List.perm_ext_iff_of_nodup (nodup_eraseDups _) List.nodup_range).mpr
  intro slot
  rw [List.mem_eraseDups, List.mem_map, List.mem_range]
  constructor
  · rintro ⟨place, member, same⟩
    rw [(Ring.walk_perm _ token).mem_iff, mem_places_iff] at member
    obtain ⟨node, atSlot, _⟩ := member
    rw [same] at atSlot
    exact (List.getElem?_eq_some_iff.mp atSlot).1
  · intro bound
    refine ⟨VirtualNode.place blueprint.partitioner nodes[slot].id slot 0, ?_, rfl⟩
    rw [(Ring.walk_perm _ token).mem_iff, mem_places_iff]
    exact ⟨nodes[slot], List.getElem?_eq_getElem bound, 0, placed, rfl⟩

theorem slotsMet_pairwise (blueprint : Blueprint) (nodes : List (Handle Client)) (token : Token)
    (placed : 0 < blueprint.virtualNodes) :
    ((blueprint.ring nodes).slotsMet token).Pairwise (fun first second =>
      ∀ near far, nodes[first]? = some near → nodes[second]? = some far →
        blueprint.noFarther token (near, first) (far, second) = true) := by
  have met := pairwise_eraseDups (VirtualNode.MetBefore token) VirtualNode.slot
    ((blueprint.ring nodes).walk token)
    (Ring.walk_pairwise _ token (VirtualNode.sorted_pairwise _))
  apply met.imp
  rintro first second ⟨_, place, placeMember, atFirst, before⟩ near far nearAt farAt
  rw [(Ring.walk_perm _ token).mem_iff, mem_places_iff, atFirst, nearAt] at placeMember
  obtain ⟨node, same, index, bound, placeEq⟩ := placeMember
  cases same
  obtain ⟨farLeast, _⟩ := blueprint.leastDistance_spec token far.id placed
  obtain ⟨farIndex, farBound, farEq⟩ := List.mem_map.mp farLeast
  -- The virtual node of the second slot that realises the slot's least distance.
  have farMember : VirtualNode.place blueprint.partitioner far.id second farIndex ∈
      (blueprint.ring nodes).walk token := by
    rw [(Ring.walk_perm _ token).mem_iff, mem_places_iff]
    exact ⟨far, farAt, farIndex, List.mem_range.mp farBound, rfl⟩
  have reached := before _ farMember rfl
  have nearLeast := (blueprint.leastDistance_spec token near.id placed).2
    (VirtualNode.distance token place) (List.mem_map.mpr
      ⟨index, List.mem_range.mpr bound, by rw [placeEq]; rfl⟩)
  have farDistance : VirtualNode.distance token
      (VirtualNode.place blueprint.partitioner far.id second farIndex) =
        blueprint.leastDistance token far.id := farEq
  unfold VirtualNode.MetBefore at reached
  rw [farDistance, atFirst] at reached
  change _ ∨ _ ∧ first ≤ second at reached
  simp only [noFarther, Bool.or_eq_true, Bool.and_eq_true, decide_eq_true_eq]
  omega

private theorem mem_slotsMet_at (blueprint : Blueprint) (nodes : List (Handle Client))
    (token : Token) (placed : 0 < blueprint.virtualNodes) (entry : Handle Client × Nat) :
    entry ∈ ((blueprint.ring nodes).slotsMet token).filterMap
        (fun slot => nodes[slot]?.map (fun node => (node, slot))) ↔
      entry ∈ nodes.zipIdx := by
  rw [List.mem_filterMap, List.mem_zipIdx_iff_getElem?]
  constructor
  · rintro ⟨slot, _, found⟩
    obtain ⟨node, atSlot, same⟩ := Option.map_eq_some_iff.mp found
    subst same
    exact atSlot
  · intro atSlot
    refine ⟨entry.2, ?_, by rw [atSlot]; rfl⟩
    rw [(blueprint.slotsMet_perm nodes token placed).mem_iff, List.mem_range]
    exact (List.getElem?_eq_some_iff.mp atSlot).1

private theorem slotsMet_at_perm (blueprint : Blueprint) (nodes : List (Handle Client))
    (token : Token) (placed : 0 < blueprint.virtualNodes) :
    (((blueprint.ring nodes).slotsMet token).filterMap
      (fun slot => nodes[slot]?.map (fun node => (node, slot)))).Perm nodes.zipIdx := by
  apply (List.perm_ext_iff_of_nodup ?_ ?_).mpr (blueprint.mem_slotsMet_at nodes token placed)
  · apply List.Nodup.filterMap _ (nodup_eraseDups _)
    intro first second entry atFirst atSecond
    obtain ⟨_, _, firstEq⟩ := Option.map_eq_some_iff.mp atFirst
    obtain ⟨_, _, secondEq⟩ := Option.map_eq_some_iff.mp atSecond
    exact (congrArg Prod.snd firstEq).trans (congrArg Prod.snd secondEq).symm
  · exact List.Nodup.of_map Prod.snd (List.nodup_zipIdx_map_snd nodes)

/-- The walk of a token visits the nodes nearest first. -/
theorem nearestFirst_eq_nodesIn (blueprint : Blueprint) (nodes : List (Handle Client))
    (token : Token) (placed : 0 < blueprint.virtualNodes) :
    blueprint.nearestFirst nodes token =
      (blueprint.ring nodes).nodesIn ((blueprint.ring nodes).slotsMet token) := by
  have sorted : (nodes.zipIdx.mergeSort (blueprint.noFarther token)).Pairwise
      (fun first second => blueprint.noFarther token first second = true) :=
    List.pairwise_mergeSort (blueprint.noFarther_trans token)
      (blueprint.noFarther_total token) nodes.zipIdx
  have visited : (((blueprint.ring nodes).slotsMet token).filterMap
      (fun slot => nodes[slot]?.map (fun node => (node, slot)))).Pairwise
      (fun first second => blueprint.noFarther token first second = true) := by
    rw [List.pairwise_filterMap]
    apply (blueprint.slotsMet_pairwise nodes token placed).imp
    intro first second before near nearAt far farAt
    obtain ⟨nearNode, nearFound, rfl⟩ := Option.map_eq_some_iff.mp nearAt
    obtain ⟨farNode, farFound, rfl⟩ := Option.map_eq_some_iff.mp farAt
    exact before nearNode farNode nearFound farFound
  have sameOrder : nodes.zipIdx.mergeSort (blueprint.noFarther token) =
      ((blueprint.ring nodes).slotsMet token).filterMap
        (fun slot => nodes[slot]?.map (fun node => (node, slot))) := by
    refine List.Perm.eq_of_pairwise ?_ sorted visited
      ((List.mergeSort_perm _ _).trans (blueprint.slotsMet_at_perm nodes token placed).symm)
    intro first second firstMember secondMember before after
    rw [List.mem_mergeSort, List.mem_zipIdx_iff_getElem?] at firstMember
    rw [mem_slotsMet_at blueprint nodes token placed, List.mem_zipIdx_iff_getElem?] at secondMember
    simp only [noFarther, Bool.or_eq_true, Bool.and_eq_true, decide_eq_true_eq] at before after
    have samePosition : first.2 = second.2 := by omega
    rw [samePosition, secondMember] at firstMember
    exact Prod.ext (Option.some.inj firstMember).symm samePosition
  unfold nearestFirst
  rw [sameOrder, List.map_filterMap]
  change _ = ((blueprint.ring nodes).slotsMet token).filterMap (fun slot => nodes[slot]?)
  congr 1
  funext slot
  cases nodes[slot]? with
  | none => rfl
  | some node => rfl

private theorem filterMap_take {Item Value : Type} (f : Item → Option Value) (items : List Item)
    (count : Nat) (found : ∀ item, item ∈ items → (f item).isSome = true) :
    (items.take count).filterMap f = (items.filterMap f).take count := by
  induction items generalizing count with
  | nil => simp
  | cons item rest ih =>
      obtain ⟨value, itemValue⟩ := Option.isSome_iff_exists.mp (found item List.mem_cons_self)
      cases count with
      | zero => rfl
      | succ count =>
          rw [List.take_succ_cons, List.filterMap_cons_some itemValue,
            List.filterMap_cons_some itemValue, List.take_succ_cons,
            ih count (fun other member => found other (List.mem_cons_of_mem item member))]

theorem quorum_ring (blueprint : Blueprint) (nodes : List (Handle Client)) (key : Key)
    (placed : 0 < blueprint.virtualNodes) :
    (blueprint.ring nodes).quorum key =
      (blueprint.nearestFirst nodes (blueprint.partitioner.token key)).take
        (min blueprint.quorumSize nodes.length) := by
  rw [nearestFirst_eq_nodesIn blueprint nodes _ placed]
  unfold Ring.quorum
  rw [Ring.quorumSlots_eq]
  apply filterMap_take
  intro slot member
  rw [(blueprint.slotsMet_perm nodes _ placed).mem_iff, List.mem_range] at member
  exact Option.isSome_iff_exists.mpr ⟨nodes[slot], List.getElem?_eq_getElem member⟩

/-- A token is looked up at its nearest node. -/
theorem primaryNode_ring (blueprint : Blueprint) (nodes : List (Handle Client)) (token : Token)
    (placed : 0 < blueprint.virtualNodes) :
    ((blueprint.ring nodes).primarySlot? token).bind (fun slot => nodes[slot]?) =
      (blueprint.nearestFirst nodes token).head? := by
  have valid := blueprint.slotsMet_perm nodes token placed
  rw [nearestFirst_eq_nodesIn blueprint nodes token placed]
  unfold Ring.primarySlot?
  unfold Ring.slotsMet at valid ⊢
  cases met : (blueprint.ring nodes).walk token with
  | nil => rfl
  | cons place rest =>
      rw [met, List.map_cons, List.eraseDups_cons] at valid
      have bound := List.mem_range.mp (valid.mem_iff.mp List.mem_cons_self)
      have atSlot : nodes[place.slot]? = some nodes[place.slot] := List.getElem?_eq_getElem bound
      rw [List.map_cons, List.eraseDups_cons]
      change nodes[place.slot]? =
        (List.filterMap (fun slot => nodes[slot]?) (place.slot :: _)).head?
      rw [List.filterMap_cons_some atSlot, atSlot]
      rfl

theorem node?_ring (blueprint : Blueprint) (nodes : List (Handle Client)) (key : Key)
    (placed : 0 < blueprint.virtualNodes) :
    (blueprint.ring nodes).node? key =
      (blueprint.nearestFirst nodes (blueprint.partitioner.token key)).head? :=
  blueprint.primaryNode_ring nodes (blueprint.partitioner.token key) placed

/-- The quorum of a key is the beginning of the nodes, nearest first, and its node is the head of
its quorum. -/
theorem quorum_nearest (blueprint : Blueprint) (nodes : List (Handle Client)) (ring : Ring Client)
    (built : blueprint.build nodes = .ok ring) (key : Key) :
    ring.quorum key =
        (blueprint.nearestFirst nodes (blueprint.partitioner.token key)).take
          (min blueprint.quorumSize nodes.length) ∧
      ring.quorumIds key =
        ((blueprint.nearestFirst nodes (blueprint.partitioner.token key)).map Handle.id).take
          (min blueprint.quorumSize nodes.length) ∧
      (ring.quorumIds key).Nodup ∧
      (ring.quorumIds key).length = min blueprint.quorumSize nodes.length ∧
      ring.node? key = (ring.quorum key).head? ∧
      (ring.node? key = none ↔ nodes = []) := by
  obtain ⟨admitted, rfl⟩ := (build_eq_ok_iff_admits blueprint nodes ring).mp built
  have placed := admitted.virtualNodes_pos
  have wanted := admitted.quorumSize_pos
  have visited := blueprint.nearestFirst_perm nodes (blueprint.partitioner.token key)
  unfold Ring.quorumIds
  rw [quorum_ring blueprint nodes key placed, node?_ring blueprint nodes key placed]
  refine ⟨rfl, List.map_take, ?_, ?_, ?_, ?_⟩
  · exact ((visited.map Handle.id).nodup_iff.mpr admitted.distinct).sublist
      ((List.take_sublist _ _).map Handle.id)
  · rw [List.length_map, List.length_take, visited.length_eq]
    omega
  · cases order : blueprint.nearestFirst nodes (blueprint.partitioner.token key) with
    | nil => rw [List.take_nil]
    | cons node rest =>
        have some_node : 0 < nodes.length := by
          rw [← visited.length_eq, order]
          exact Nat.succ_pos rest.length
        rw [List.head?_take, if_neg (by omega)]
  · rw [List.head?_eq_none_iff]
    constructor
    · intro nobody
      rw [nobody] at visited
      exact visited.nil_eq.symm
    · intro empty
      rw [empty] at visited ⊢
      exact visited.eq_nil

theorem nearestFirst_tied :
    (ofLengths 2 2).nearestFirst (Handle.named 0 ["ab", "c", "d"])
        ((ofLengths 2 2).partitioner.token [1, 2, 3, 4]) =
      Handle.named 0 ["ab", "c", "d"] := by
  unfold nearestFirst
  rw [List.mergeSort_of_pairwise, List.zipIdx_map_fst]
  decide +kernel

theorem quorum_nearest_tied :
    (ofLengths 2 2).build (Handle.named 0 ["ab", "c", "d"]) =
        .ok ((ofLengths 2 2).ring (Handle.named 0 ["ab", "c", "d"])) ∧
      ((ofLengths 2 2).ring (Handle.named 0 ["ab", "c", "d"])).quorumIds [1, 2, 3, 4] =
        ["ab", "c"] := by
  refine ⟨build_tied, ?_⟩
  rw [(quorum_nearest (ofLengths 2 2) _ _ build_tied [1, 2, 3, 4]).2.1, nearestFirst_tied]
  decide

end Blueprint

end QuorumRouting
