import QuorumRouting.Proofs.Ring.Nearest

/-!
Who is in a quorum. The members of a quorum are nodes of the ring, each at most once, and there are
as many as asked for, or all of them when there are fewer.
-/

set_option autoImplicit false

namespace QuorumRouting.Blueprint

variable {Client : Type} (blueprint : Blueprint) (nodes : List (Handle Client)) (key : Key)

theorem mem_of_mem_quorum (placed : 0 < blueprint.virtualNodes) {node : Handle Client}
    (member : node ∈ (blueprint.ring nodes).quorum key) : node ∈ nodes := by
  rw [quorum_ring blueprint nodes key placed] at member
  exact (blueprint.nearestFirst_perm nodes _).mem_iff.mp (List.mem_of_mem_take member)

theorem nodup_ids_quorum (placed : 0 < blueprint.virtualNodes)
    (distinct : (nodes.map Handle.id).Nodup) :
    (((blueprint.ring nodes).quorum key).map Handle.id).Nodup := by
  rw [quorum_ring blueprint nodes key placed]
  exact (((blueprint.nearestFirst_perm nodes _).map Handle.id).nodup_iff.mpr distinct).sublist
    ((List.take_sublist _ _).map Handle.id)

theorem length_quorum (placed : 0 < blueprint.virtualNodes) :
    ((blueprint.ring nodes).quorum key).length = min blueprint.quorumSize nodes.length := by
  rw [quorum_ring blueprint nodes key placed, List.length_take,
    (blueprint.nearestFirst_perm nodes _).length_eq]
  omega

theorem quorum_eq_nil_iff (placed : 0 < blueprint.virtualNodes)
    (wanted : 0 < blueprint.quorumSize) :
    (blueprint.ring nodes).quorum key = [] ↔ nodes = [] := by
  rw [← List.length_eq_zero_iff, length_quorum blueprint nodes key placed,
    ← List.length_eq_zero_iff]
  omega

/-- Where quorums are as large as the list of nodes, everybody is in them. -/
theorem quorum_perm (placed : 0 < blueprint.virtualNodes)
    (few : nodes.length ≤ blueprint.quorumSize) :
    ((blueprint.ring nodes).quorum key).Perm nodes := by
  have visited := blueprint.nearestFirst_perm nodes (blueprint.partitioner.token key)
  rw [quorum_ring blueprint nodes key placed, Nat.min_eq_right few, ← visited.length_eq,
    List.take_length]
  exact visited

end QuorumRouting.Blueprint
