import QuorumRouting.Proofs.Ring.Building
import QuorumRouting.Ring.Lookup

/-!
Rings go by names. Where the virtual nodes are, whose they are and which slots a lookup meets is
decided by the ids of the nodes in their order; the clients behind them, the serial numbers of the
handles and the addresses play no part.
-/

set_option autoImplicit false

namespace QuorumRouting

variable {Client : Type}

/-- Every token goes with the id of its owner. -/
theorem Ring.tokens_eq (ring : Ring Client) :
    ring.tokens = ring.places.filterMap (fun place =>
      (ring.ids[place.slot]?).map (fun id => (place.token, id))) := by
  unfold Ring.tokens Ring.ids
  congr 1
  funext place
  rw [List.getElem?_map, Option.map_map]
  rfl

namespace Blueprint

variable (blueprint : Blueprint) {nodes others : List (Handle Client)}

theorem unsortedPlaces_eq (nodes : List (Handle Client)) :
    blueprint.unsortedPlaces nodes =
      (nodes.map Handle.id).zipIdx.flatMap (fun (id, slot) =>
        (List.range blueprint.virtualNodes).map (fun index =>
          VirtualNode.place blueprint.partitioner id slot index)) := by
  unfold unsortedPlaces
  rw [List.zipIdx_map, List.flatMap_map]
  rfl

theorem places_ring_of_ids (same : nodes.map Handle.id = others.map Handle.id) :
    (blueprint.ring nodes).places = (blueprint.ring others).places := by
  change VirtualNode.sorted (blueprint.unsortedPlaces nodes) =
    VirtualNode.sorted (blueprint.unsortedPlaces others)
  rw [unsortedPlaces_eq, unsortedPlaces_eq, same]

theorem length_of_ids (same : nodes.map Handle.id = others.map Handle.id) :
    nodes.length = others.length := by
  have lengths := congrArg List.length same
  rw [List.length_map, List.length_map] at lengths
  exact lengths

theorem tokens_ring_of_ids (same : nodes.map Handle.id = others.map Handle.id) :
    (blueprint.ring nodes).tokens = (blueprint.ring others).tokens := by
  have ids : (blueprint.ring nodes).ids = (blueprint.ring others).ids := same
  rw [Ring.tokens_eq, Ring.tokens_eq, places_ring_of_ids blueprint same, ids]

theorem quorumSlots_ring_of_ids (same : nodes.map Handle.id = others.map Handle.id)
    (token : Token) :
    (blueprint.ring nodes).quorumSlots token = (blueprint.ring others).quorumSlots token := by
  have counts : (blueprint.ring nodes).nodeCount = (blueprint.ring others).nodeCount :=
    length_of_ids same
  unfold Ring.quorumSlots Ring.walk
  rw [places_ring_of_ids blueprint same, counts]
  rfl

/-- What is seen of a quorum's nodes is decided by what is seen of all nodes, and their ids. -/
theorem map_quorum_ring_of_ids {View : Type} (view : Handle Client → View)
    (same : nodes.map Handle.id = others.map Handle.id)
    (alike : nodes.map view = others.map view) (key : Key) :
    ((blueprint.ring nodes).quorum key).map view =
      ((blueprint.ring others).quorum key).map view := by
  have seen (nodes : List (Handle Client)) (slots : List Nat) :
      ((blueprint.ring nodes).nodesIn slots).map view =
        slots.filterMap (fun slot => (nodes.map view)[slot]?) := by
    unfold Ring.nodesIn
    rw [List.map_filterMap]
    simp only [List.getElem?_map]
    rfl
  unfold Ring.quorum
  rw [seen, seen, alike]
  exact congrArg _ (quorumSlots_ring_of_ids blueprint same _)

theorem Admits.of_ids {blueprint : Blueprint} (admitted : blueprint.Admits nodes)
    (same : nodes.map Handle.id = others.map Handle.id) : blueprint.Admits others :=
  { virtualNodes_pos := admitted.virtualNodes_pos
    quorumSize_pos := admitted.quorumSize_pos
    length_le := length_of_ids same ▸ admitted.length_le
    distinct := same ▸ admitted.distinct
    product_lt := length_of_ids same ▸ admitted.product_lt
    capacity_le := length_of_ids same ▸ admitted.capacity_le }

end Blueprint

end QuorumRouting
