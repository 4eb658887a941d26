import QuorumRouting.Proofs.Ring.Naming
import QuorumRouting.Proofs.Ring.Removal
import QuorumRouting.Proofs.Ring.Territory

/-!
The same nodes in another order. Slots follow the order of the list, and a ring asks for slots only
where tokens tie. When different nodes have no token in common, a tie is between virtual nodes of
one node, and these are alike; so rings over the same ids in any order have the same tokens, meet
the same nodes on every walk and give each node the same part of the ring, whatever their slots are.
-/

set_option autoImplicit false

namespace QuorumRouting

variable {Client : Type}

/-- Sorting by a key that tells the items apart forgets their order. -/
theorem mergeSort_eq_of_perm {Item : Type} (key : Item → Nat) {items others : List Item}
    (permuted : items.Perm others)
    (apart : ∀ one other, one ∈ items → other ∈ items → key one = key other → one = other) :
    items.mergeSort (fun one other => key one ≤ key other) =
      others.mergeSort (fun one other => key one ≤ key other) := by
  have sorted (list : List Item) : (list.mergeSort (fun one other => key one ≤ key other)).Pairwise
      (fun one other => decide (key one ≤ key other) = true) := by
    apply List.pairwise_mergeSort
    · intro first second third before after
      rw [decide_eq_true_iff] at *
      exact Nat.le_trans before after
    · intro first second
      rw [Bool.or_eq_true, decide_eq_true_iff, decide_eq_true_iff]
      exact Nat.le_total _ _
  refine List.Perm.eq_of_pairwise ?_ (sorted items) (sorted others)
    ((List.mergeSort_perm _ _).trans (permuted.trans (List.mergeSort_perm _ _).symm))
  intro one other oneMember otherMember before after
  rw [List.mem_mergeSort] at oneMember otherMember
  exact apart one other oneMember (permuted.mem_iff.mpr otherMember)
    (Nat.le_antisymm (of_decide_eq_true before) (of_decide_eq_true after))

theorem Token.distanceTo_inj (start : Token) {target other : Token}
    (same : (start.distanceTo target).toNat = (start.distanceTo other).toNat) : target = other :=
  (UInt64.sub_left_inj start).mp (UInt64.toNat_inj.mp same)

namespace Ring

theorem divided_iff_tokens (ring : Ring Client) :
    ring.Divided ↔ (ring.places.map VirtualNode.token).length = 1 ∨
      ∃ one other, one ∈ ring.places.map VirtualNode.token ∧
        other ∈ ring.places.map VirtualNode.token ∧ one ≠ other := by
  unfold Divided tokenCount
  rw [List.length_map]
  refine or_congr_right ⟨?_, ?_⟩
  · rintro ⟨first, second, firstMember, secondMember, different⟩
    exact ⟨_, _, List.mem_map_of_mem firstMember, List.mem_map_of_mem secondMember, different⟩
  · rintro ⟨one, other, oneMember, otherMember, different⟩
    obtain ⟨first, firstMember, rfl⟩ := List.mem_map.mp oneMember
    obtain ⟨second, secondMember, rfl⟩ := List.mem_map.mp otherMember
    exact ⟨first, second, firstMember, secondMember, different⟩

theorem mem_ownership_iff (ring : Ring Client) {id : NodeId} {part : Float} :
    (id, part) ∈ ring.ownership ↔
      ∃ slot, ring.ids[slot]? = some id ∧ share (ring.ownedTokens slot) = part := by
  unfold ownership ids
  rw [List.mem_map]
  constructor
  · rintro ⟨⟨node, slot⟩, member, same⟩
    obtain ⟨rfl, rfl⟩ := Prod.mk.inj same
    refine ⟨slot, ?_, rfl⟩
    rw [List.getElem?_map, List.mem_zipIdx_iff_getElem?.mp member]
    rfl
  · rintro ⟨slot, here, rfl⟩
    rw [List.getElem?_map] at here
    obtain ⟨node, found, rfl⟩ := Option.map_eq_some_iff.mp here
    exact ⟨(node, slot), List.mem_zipIdx_iff_getElem?.mpr found, rfl⟩

end Ring

namespace Blueprint

variable (blueprint : Blueprint)

/-- Have different nodes no token in common? -/
def Untied (ids : List NodeId) : Prop :=
  ∀ first ∈ ids, ∀ second ∈ ids, ∀ index < blueprint.virtualNodes, ∀ other < blueprint.virtualNodes,
    blueprint.partitioner.token (VirtualNode.placementKey first index) =
      blueprint.partitioner.token (VirtualNode.placementKey second other) → first = second

def tokensOf (id : NodeId) : List (Token × NodeId) :=
  (List.range blueprint.virtualNodes).map (fun index =>
    (blueprint.partitioner.token (VirtualNode.placementKey id index), id))

section

variable {blueprint} {nodes others : List (Handle Client)}
  (permuted : (nodes.map Handle.id).Perm (others.map Handle.id))
  (untied : blueprint.Untied (nodes.map Handle.id))

/-! ### Tokens -/

theorem tokens_ring_perm (nodes : List (Handle Client)) :
    (blueprint.ring nodes).tokens.Perm ((nodes.map Handle.id).flatMap blueprint.tokensOf) := by
  have sorted : (blueprint.ring nodes).places.Perm (blueprint.unsortedPlaces nodes) :=
    List.mergeSort_perm _ _
  rw [Ring.tokens_eq]
  refine (sorted.filterMap _).trans (List.Perm.of_eq ?_)
  rw [unsortedPlaces_eq, List.filterMap_flatMap]
  have owned : ∀ entry, entry ∈ (nodes.map Handle.id).zipIdx →
      ((List.range blueprint.virtualNodes).map (fun index =>
          VirtualNode.place blueprint.partitioner entry.1 entry.2 index)).filterMap
        (fun place => ((blueprint.ring nodes).ids[place.slot]?).map (fun id => (place.token, id))) =
      blueprint.tokensOf entry.1 := by
    intro entry member
    have here : (blueprint.ring nodes).ids[entry.2]? = some entry.1 :=
      List.mem_zipIdx_iff_getElem?.mp member
    rw [List.filterMap_map]
    change List.filterMap (fun index => ((blueprint.ring nodes).ids[entry.2]?).map (fun id =>
      (blueprint.partitioner.token (VirtualNode.placementKey entry.1 index), id))) _ = _
    rw [here]
    exact congrFun List.filterMap_eq_map' _
  rw [List.flatMap_congr owned]
  exact (List.flatMap_map Prod.fst blueprint.tokensOf _).symm.trans
    (congrArg _ (List.zipIdx_map_fst 0 _))

theorem tokens_ring_ascending (nodes : List (Handle Client)) :
    (blueprint.ring nodes).tokens.Pairwise
      (fun earlier later => earlier.1.toNat ≤ later.1.toNat) := by
  rw [Ring.tokens_eq, List.pairwise_filterMap]
  apply (blueprint.ascending_ring nodes).imp
  intro first second before one oneAt other otherAt
  obtain ⟨_, _, rfl⟩ := Option.map_eq_some_iff.mp oneAt
  obtain ⟨_, _, rfl⟩ := Option.map_eq_some_iff.mp otherAt
  exact before

theorem mem_tokens_ring_iff {entry : Token × NodeId} :
    entry ∈ (blueprint.ring nodes).tokens ↔
      entry.2 ∈ nodes.map Handle.id ∧ ∃ index, index < blueprint.virtualNodes ∧
        blueprint.partitioner.token (VirtualNode.placementKey entry.2 index) = entry.1 := by
  rw [(tokens_ring_perm nodes).mem_iff, List.mem_flatMap]
  constructor
  · rintro ⟨id, listed, member⟩
    obtain ⟨index, bound, rfl⟩ := List.mem_map.mp member
    exact ⟨listed, index, List.mem_range.mp bound, rfl⟩
  · rintro ⟨listed, index, bound, token⟩
    exact ⟨entry.2, listed, List.mem_map.mpr
      ⟨index, List.mem_range.mpr bound, Prod.ext token rfl⟩⟩

include permuted untied

/-- Where tokens are equal their owners are, so sorting by tokens leaves no choice. -/
theorem tokens_ring_eq_of_perm :
    (blueprint.ring nodes).tokens = (blueprint.ring others).tokens := by
  refine List.Perm.eq_of_pairwise ?_ (tokens_ring_ascending nodes) (tokens_ring_ascending others)
    ((tokens_ring_perm nodes).trans
      ((permuted.flatMap_right _).trans (tokens_ring_perm others).symm))
  intro one other oneMember otherMember before after
  obtain ⟨oneListed, index, bound, oneToken⟩ := mem_tokens_ring_iff.mp oneMember
  obtain ⟨otherListed, position, within, otherToken⟩ := mem_tokens_ring_iff.mp otherMember
  have sameToken : one.1 = other.1 := UInt64.toNat_inj.mp (Nat.le_antisymm before after)
  exact Prod.ext sameToken (untied one.2 oneListed other.2 (permuted.mem_iff.mpr otherListed)
    index bound position within ((oneToken.trans sameToken).trans otherToken.symm))

/-! ### Walks -/

omit permuted in
theorem leastDistance_inj (placed : 0 < blueprint.virtualNodes) (token : Token)
    {one other : NodeId} (oneListed : one ∈ nodes.map Handle.id)
    (otherListed : other ∈ nodes.map Handle.id)
    (same : blueprint.leastDistance token one = blueprint.leastDistance token other) :
    one = other := by
  obtain ⟨index, bound, least⟩ :=
    List.mem_map.mp (blueprint.leastDistance_spec token one placed).1
  obtain ⟨position, within, otherLeast⟩ :=
    List.mem_map.mp (blueprint.leastDistance_spec token other placed).1
  exact untied one oneListed other otherListed index (List.mem_range.mp bound) position
    (List.mem_range.mp within)
    (token.distanceTo_inj ((least.trans same).trans otherLeast.symm))

omit permuted untied in
theorem ids_nearestFirst (nodes : List (Handle Client)) (token : Token) :
    (blueprint.nearestFirst nodes token).map Handle.id =
      (nodes.map Handle.id).mergeSort (fun one other =>
        blueprint.leastDistance token one ≤ blueprint.leastDistance token other) := by
  rw [nearestFirst_eq_mergeSort]
  exact List.map_mergeSort (fun one _ other _ => rfl)

theorem ids_nearestFirst_eq_of_perm (placed : 0 < blueprint.virtualNodes) (token : Token) :
    (blueprint.nearestFirst nodes token).map Handle.id =
      (blueprint.nearestFirst others token).map Handle.id := by
  rw [ids_nearestFirst, ids_nearestFirst]
  exact mergeSort_eq_of_perm _ permuted (fun one other oneListed otherListed =>
    leastDistance_inj untied placed token oneListed otherListed)

theorem quorumIds_ring_eq_of_perm (placed : 0 < blueprint.virtualNodes) (key : Key) :
    (blueprint.ring nodes).quorumIds key = (blueprint.ring others).quorumIds key := by
  unfold Ring.quorumIds
  rw [quorum_ring_eq_take blueprint nodes key placed,
    quorum_ring_eq_take blueprint others key placed, List.map_take, List.map_take,
    ids_nearestFirst_eq_of_perm permuted untied placed]

theorem node?_ring_eq_of_perm (placed : 0 < blueprint.virtualNodes) (key : Key) :
    ((blueprint.ring nodes).node? key).map Handle.id =
      ((blueprint.ring others).node? key).map Handle.id := by
  rw [node?_ring blueprint nodes key placed, node?_ring blueprint others key placed,
    ← List.head?_map, ← List.head?_map, ids_nearestFirst_eq_of_perm permuted untied placed]

/-! ### Territories -/

omit permuted untied in
theorem primarySlot?_ring_iff (placed : 0 < blueprint.virtualNodes)
    (distinct : (nodes.map Handle.id).Nodup) {slot : Nat} {id : NodeId}
    (here : (nodes.map Handle.id)[slot]? = some id) (token : Token) :
    (blueprint.ring nodes).primarySlot? token = some slot ↔
      ((blueprint.nearestFirst nodes token).map Handle.id).head? = some id := by
  have nearest := congrArg (Option.map Handle.id) (blueprint.primaryNode_ring nodes token placed)
  rw [← List.head?_map, Option.map_bind] at nearest
  rw [← nearest]
  cases found : (blueprint.ring nodes).primarySlot? token with
  | none => exact iff_of_false nofun nofun
  | some primary =>
      have bound := (List.getElem?_eq_some_iff.mp here).1
      change some primary = some slot ↔ (nodes[primary]?).map Handle.id = some id
      rw [Option.some_inj, ← List.getElem?_map, ← here]
      exact ⟨fun same => same ▸ rfl,
        fun same => ((List.getElem?_inj bound distinct).mp same.symm).symm⟩

omit permuted untied in
theorem map_fst_tokens_ring (nodes : List (Handle Client)) :
    (blueprint.ring nodes).tokens.map Prod.fst =
      (blueprint.ring nodes).places.map VirtualNode.token := by
  rw [Ring.tokens_eq, List.map_filterMap, ← List.filterMap_eq_map]
  apply List.filterMap_congr
  intro place member
  obtain ⟨node, here, -⟩ := (blueprint.mem_places_iff nodes place).mp member
  have owner : (blueprint.ring nodes).ids[place.slot]? = some node.id :=
    List.getElem?_map.trans (congrArg (Option.map Handle.id) here)
  rw [owner]
  rfl

theorem divided_ring_iff_of_perm :
    (blueprint.ring nodes).Divided ↔ (blueprint.ring others).Divided := by
  have tokens : (blueprint.ring nodes).places.map VirtualNode.token =
      (blueprint.ring others).places.map VirtualNode.token := by
    rw [← map_fst_tokens_ring, ← map_fst_tokens_ring, tokens_ring_eq_of_perm permuted untied]
  rw [Ring.divided_iff_tokens, Ring.divided_iff_tokens, tokens]

omit permuted untied in
/-- What a node owns is what is looked up at it, or nothing where all tokens are one. -/
theorem ownedTokens_ring (placed : 0 < blueprint.virtualNodes) (some_node : nodes ≠ [])
    (slot : Nat) :
    ((blueprint.ring nodes).Divided → (blueprint.ring nodes).ownedTokens slot =
        {token : Token | (blueprint.ring nodes).primarySlot? token = some slot}.ncard) ∧
      (¬ (blueprint.ring nodes).Divided → (blueprint.ring nodes).ownedTokens slot = 0) := by
  obtain ⟨first, rest, split⟩ :=
    List.exists_cons_of_ne_nil (blueprint.places_ne_nil nodes placed some_node)
  have ascending := split ▸ blueprint.ascending_ring nodes
  constructor
  · intro divided
    exact (Ring.ncard_primarySlot? _ first rest split ascending divided slot).symm
  · intro heaped
    have nothing := (Ring.extent_spans _ first rest split ascending).2 heaped
    exact Nat.le_zero.mp (nothing ▸ Ring.ownedIn_le_extent _ slot)

theorem ownedTokens_ring_eq_of_perm (placed : 0 < blueprint.virtualNodes)
    (distinct : (nodes.map Handle.id).Nodup) {id : NodeId} {slot place : Nat}
    (here : (nodes.map Handle.id)[slot]? = some id)
    (there : (others.map Handle.id)[place]? = some id) :
    (blueprint.ring nodes).ownedTokens slot = (blueprint.ring others).ownedTokens place := by
  have nonempty {list : List (Handle Client)} {position : Nat}
      (found : (list.map Handle.id)[position]? = some id) : list ≠ [] := by
    rintro rfl
    cases found
  obtain ⟨owned, heaped⟩ := ownedTokens_ring placed (nonempty here) slot
  obtain ⟨otherOwned, otherHeaped⟩ := ownedTokens_ring placed (nonempty there) place
  by_cases divided : (blueprint.ring nodes).Divided
  · rw [owned divided, otherOwned ((divided_ring_iff_of_perm permuted untied).mp divided)]
    congr 1
    ext token
    change _ = _ ↔ _ = _
    rw [primarySlot?_ring_iff placed distinct here,
      primarySlot?_ring_iff placed (permuted.nodup_iff.mp distinct) there,
      ids_nearestFirst_eq_of_perm permuted untied placed]
  · rw [heaped divided, otherHeaped (mt (divided_ring_iff_of_perm permuted untied).mpr divided)]

end

/-! ### Building -/

theorem obstacle_eq_of_perm {nodes others : List (Handle Client)}
    (distinct : (nodes.map Handle.id).Nodup)
    (permuted : (nodes.map Handle.id).Perm (others.map Handle.id)) :
    blueprint.obstacle others = blueprint.obstacle nodes := by
  have unrepeated {ids : List NodeId} (different : ids.Nodup) : firstRepeated [] ids = none :=
    (firstRepeated_eq_none_iff _ _).mpr ⟨different, fun id _ => List.not_mem_nil⟩
  have lengths : nodes.length = others.length := by
    have counted := permuted.length_eq
    rw [List.length_map, List.length_map] at counted
    exact counted
  unfold obstacle
  rw [unrepeated distinct, unrepeated (permuted.nodup_iff.mp distinct), lengths]

/-- A ring over the same ids in another order is built or refused like the first one. If different
nodes have no token in common, then both have the same tokens, give every key the same quorum and
the same node, and leave each node the same number of tokens. -/
theorem alike_of_perm (nodes others : List (Handle Client))
    (distinct : (nodes.map Handle.id).Nodup)
    (permuted : (nodes.map Handle.id).Perm (others.map Handle.id))
    (untied : blueprint.Untied (nodes.map Handle.id)) :
    blueprint.obstacle others = blueprint.obstacle nodes ∧
      ∀ ring, blueprint.build nodes = .ok ring → ∃ other, blueprint.build others = .ok other ∧
        other.tokens = ring.tokens ∧
        (∀ key, other.quorumIds key = ring.quorumIds key ∧
          (other.node? key).map Handle.id = (ring.node? key).map Handle.id) ∧
        (∀ id slot place, ring.ids[slot]? = some id → other.ids[place]? = some id →
          other.ownedTokens place = ring.ownedTokens slot) ∧
        ∀ id part, (id, part) ∈ other.ownership ↔ (id, part) ∈ ring.ownership := by
  have sameObstacle := blueprint.obstacle_eq_of_perm distinct permuted
  refine ⟨sameObstacle, ?_⟩
  intro ring built
  obtain ⟨free, rfl⟩ := (build_eq_ok_iff blueprint nodes ring).mp built
  have placed := ((obstacle_eq_none_iff blueprint nodes).mp free).virtualNodes_pos
  have owned {id : NodeId} {slot place : Nat}
      (here : (blueprint.ring nodes).ids[slot]? = some id)
      (there : (blueprint.ring others).ids[place]? = some id) :
      (blueprint.ring others).ownedTokens place = (blueprint.ring nodes).ownedTokens slot :=
    (ownedTokens_ring_eq_of_perm permuted untied placed distinct here there).symm
  refine ⟨blueprint.ring others,
    (build_eq_ok_iff blueprint others _).mpr ⟨sameObstacle.trans free, rfl⟩,
    (tokens_ring_eq_of_perm permuted untied).symm, ?_,
    fun id slot place here there => owned here there, ?_⟩
  · intro key
    exact ⟨(quorumIds_ring_eq_of_perm permuted untied placed key).symm,
      (node?_ring_eq_of_perm permuted untied placed key).symm⟩
  · intro id part
    rw [Ring.mem_ownership_iff, Ring.mem_ownership_iff]
    constructor
    · rintro ⟨place, there, rfl⟩
      obtain ⟨slot, here⟩ :=
        List.mem_iff_getElem?.mp (permuted.mem_iff.mpr (List.mem_of_getElem? there))
      exact ⟨slot, here, congrArg Ring.share (owned here there).symm⟩
    · rintro ⟨slot, here, rfl⟩
      obtain ⟨place, there⟩ :=
        List.mem_iff_getElem?.mp (permuted.mem_iff.mp (List.mem_of_getElem? here))
      exact ⟨place, there, congrArg Ring.share (owned here there)⟩

theorem untied_lengths : (ofLengths 2 1).Untied ["ab", "c"] := by
  unfold Untied
  decide +kernel

/-- The virtual nodes of each node tie with each other, and those of "c" come first on the ring. -/
theorem alike_reordered :
    ((Handle.named 0 ["ab", "c"]).map Handle.id).Nodup ∧
      ((Handle.named 0 ["ab", "c"]).map Handle.id).Perm
        ((Handle.named 5 ["c", "ab"]).map Handle.id) ∧
      (ofLengths 2 1).Untied ["ab", "c"] ∧
      ∃ ring other, (ofLengths 2 1).build (Handle.named 0 ["ab", "c"]) = .ok ring ∧
        (ofLengths 2 1).build (Handle.named 5 ["c", "ab"]) = .ok other ∧
        other.tokens = ring.tokens ∧ other.places ≠ ring.places ∧
        other.ownedTokens 0 = ring.ownedTokens 1 := by
  have distinct : ((Handle.named 0 ["ab", "c"]).map Handle.id).Nodup := by decide
  have permuted : ((Handle.named 0 ["ab", "c"]).map Handle.id).Perm
      ((Handle.named 5 ["c", "ab"]).map Handle.id) := by decide
  obtain ⟨-, alike⟩ := alike_of_perm (ofLengths 2 1) _ _ distinct permuted untied_lengths
  have built : (ofLengths 2 1).build (Handle.named 0 ["ab", "c"]) =
      .ok ((ofLengths 2 1).ring (Handle.named 0 ["ab", "c"])) :=
    (build_eq_ok_iff _ _ _).mpr ⟨by decide, rfl⟩
  obtain ⟨other, otherBuilt, tokens, -, owned, -⟩ := alike _ built
  obtain ⟨-, rfl⟩ := (build_eq_ok_iff _ _ _).mp otherBuilt
  refine ⟨distinct, permuted, untied_lengths, _, _, built, otherBuilt, tokens, ?_,
    owned "c" 1 0 rfl rfl⟩
  have places : ((ofLengths 2 1).ring (Handle.named 0 ["ab", "c"])).places =
      [⟨3, 1⟩, ⟨3, 1⟩, ⟨4, 0⟩, ⟨4, 0⟩] := by cbv
  have otherPlaces : ((ofLengths 2 1).ring (Handle.named 5 ["c", "ab"])).places =
      [⟨3, 0⟩, ⟨3, 0⟩, ⟨4, 1⟩, ⟨4, 1⟩] := by cbv
  rw [places, otherPlaces]
  decide

end Blueprint

end QuorumRouting
