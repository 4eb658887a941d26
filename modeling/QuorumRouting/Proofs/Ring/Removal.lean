import QuorumRouting.Proofs.Ring.Nearest

/-!
Rings over a part of the nodes. Dropping nodes leaves the others in the order in which every walk
met them, also where tokens tie and the slots that break the ties are numbered anew. A quorum over
a part of the nodes is therefore read off the order of all nodes, and removing one node touches the
quorums that it belonged to only.
-/

set_option autoImplicit false

namespace QuorumRouting

variable {Client : Type}

section Sorting

variable {Item : Type} (atMost : Item → Item → Bool)

/-- The place of one item in a sorted list is settled by the other items. -/
private theorem split_unique (item : Item) (before after before' after' : List Item)
    (same : before ++ after = before' ++ after')
    (left : ∀ other, other ∈ before → atMost item other = false)
    (right : ∀ other, other ∈ after → atMost item other = true)
    (left' : ∀ other, other ∈ before' → atMost item other = false)
    (right' : ∀ other, other ∈ after' → atMost item other = true) :
    before = before' ∧ after = after' := by
  have pick (front back : List Item) (front_lt : ∀ other, other ∈ front → atMost item other = false)
      (back_ge : ∀ other, other ∈ back → atMost item other = true) :
      (front ++ back).filter (fun other => !atMost item other) = front ∧
        (front ++ back).filter (fun other => atMost item other) = back := by
    constructor
    · rw [List.filter_append, List.filter_eq_self.mpr (by simpa using front_lt),
        List.filter_eq_nil_iff.mpr (by simpa using back_ge), List.append_nil]
    · rw [List.filter_append, List.filter_eq_nil_iff.mpr (by simpa using front_lt),
        List.filter_eq_self.mpr (by simpa using back_ge), List.nil_append]
  obtain ⟨front, back⟩ := pick before after left right
  obtain ⟨front', back'⟩ := pick before' after' left' right'
  rw [same] at front back
  exact ⟨front.symm.trans front', back.symm.trans back'⟩

/-- Sorting is stable, so it makes no difference whether items are dropped before or after. -/
theorem filter_mergeSort
    (trans : ∀ first second third, atMost first second = true → atMost second third = true →
      atMost first third = true)
    (total : ∀ first second, (atMost first second || atMost second first) = true)
    (keep : Item → Bool) (items : List Item) :
    (items.mergeSort atMost).filter keep = (items.filter keep).mergeSort atMost := by
  induction items with
  | nil => simp
  | cons item rest ih =>
      obtain ⟨before, after, whole, others, above⟩ := List.mergeSort_cons trans total item rest
      have sorted := List.pairwise_mergeSort trans total (item :: rest)
      rw [whole, List.pairwise_append, List.pairwise_cons] at sorted
      rw [others, List.filter_append] at ih
      rw [whole, List.filter_append]
      by_cases kept : keep item = true
      · rw [List.filter_cons_of_pos kept, List.filter_cons_of_pos kept]
        obtain ⟨before', after', whole', others', above'⟩ :=
          List.mergeSort_cons trans total item (rest.filter keep)
        have sorted' := List.pairwise_mergeSort trans total (item :: rest.filter keep)
        rw [whole', List.pairwise_append, List.pairwise_cons] at sorted'
        obtain ⟨sameBefore, sameAfter⟩ := split_unique atMost item (before.filter keep)
          (after.filter keep) before' after' (ih.trans others')
          (fun other member => by simpa using above other (List.mem_filter.mp member).1)
          (fun other member => sorted.2.1.1 other (List.mem_filter.mp member).1)
          (fun other member => by simpa using above' other member)
          (fun other member => sorted'.2.1.1 other member)
        rw [whole', sameBefore, sameAfter]
      · rw [List.filter_cons_of_neg kept, List.filter_cons_of_neg kept]
        exact ih

end Sorting

namespace Blueprint

/-- Positions only settle ties, as the order of the list does in a stable sort. -/
theorem nearestFirst_eq_mergeSort (blueprint : Blueprint) (nodes : List (Handle Client))
    (token : Token) :
    blueprint.nearestFirst nodes token = nodes.mergeSort (fun first second =>
      blueprint.leastDistance token first.id ≤ blueprint.leastDistance token second.id) := by
  rw [← List.mergeSort_zipIdx]
  unfold nearestFirst
  congr 2
  funext first second
  unfold noFarther List.zipIdxLE
  grind

theorem nearestFirst_filter (blueprint : Blueprint) (nodes : List (Handle Client))
    (keep : Handle Client → Bool) (token : Token) :
    blueprint.nearestFirst (nodes.filter keep) token =
      (blueprint.nearestFirst nodes token).filter keep := by
  rw [nearestFirst_eq_mergeSort, nearestFirst_eq_mergeSort]
  symm
  apply filter_mergeSort
  · intro first second third before after
    rw [decide_eq_true_iff] at *
    exact Nat.le_trans before after
  · intro first second
    rw [Bool.or_eq_true, decide_eq_true_iff, decide_eq_true_iff]
    exact Nat.le_total _ _

theorem quorum_ring_eq_take (blueprint : Blueprint) (nodes : List (Handle Client)) (key : Key)
    (placed : 0 < blueprint.virtualNodes) :
    (blueprint.ring nodes).quorum key =
      (blueprint.nearestFirst nodes (blueprint.partitioner.token key)).take
        blueprint.quorumSize := by
  have visited := blueprint.nearestFirst_perm nodes (blueprint.partitioner.token key)
  rw [quorum_ring blueprint nodes key placed, List.take_eq_take_iff, visited.length_eq]
  omega

def withQuorumSize (blueprint : Blueprint) (size : Nat) : Blueprint :=
  { blueprint with quorumSize := size }

/-- All nodes in the order in which the walk of a key meets them: the key's quorum on the ring
whose quorums are as large as the list of nodes. -/
def fullOrder (blueprint : Blueprint) (nodes : List (Handle Client)) (key : Key) :
    List (Handle Client) :=
  ((blueprint.withQuorumSize nodes.length).ring nodes).quorum key

theorem fullOrder_eq_nearestFirst (blueprint : Blueprint) (nodes : List (Handle Client))
    (key : Key) (placed : 0 < blueprint.virtualNodes) :
    blueprint.fullOrder nodes key =
      blueprint.nearestFirst nodes (blueprint.partitioner.token key) := by
  have visited := blueprint.nearestFirst_perm nodes (blueprint.partitioner.token key)
  unfold fullOrder
  rw [quorum_ring_eq_take (blueprint.withQuorumSize nodes.length) nodes key placed]
  change (blueprint.nearestFirst nodes (blueprint.partitioner.token key)).take nodes.length = _
  rw [← visited.length_eq, List.take_length]

/-- The quorum over a part of the nodes, from the order of all of them. -/
theorem quorum_filter_eq_take (blueprint : Blueprint) (nodes : List (Handle Client))
    (keep : Handle Client → Bool) (key : Key) (placed : 0 < blueprint.virtualNodes) :
    (blueprint.ring (nodes.filter keep)).quorum key =
      ((blueprint.fullOrder nodes key).filter keep).take blueprint.quorumSize := by
  rw [quorum_ring_eq_take blueprint _ key placed, nearestFirst_filter,
    fullOrder_eq_nearestFirst blueprint nodes key placed]

theorem quorum_eq_take_fullOrder (blueprint : Blueprint) (nodes : List (Handle Client))
    (key : Key) (placed : 0 < blueprint.virtualNodes) :
    (blueprint.ring nodes).quorum key =
      (blueprint.fullOrder nodes key).take blueprint.quorumSize := by
  rw [quorum_ring_eq_take blueprint nodes key placed,
    fullOrder_eq_nearestFirst blueprint nodes key placed]

end Blueprint

private theorem take_filter_of_absent (order : List (Handle Client)) (count : Nat)
    (removed : NodeId) (absent : removed ∉ (order.take count).map Handle.id) :
    (order.filter (fun node => node.id ≠ removed)).take count = order.take count := by
  induction order generalizing count with
  | nil => rfl
  | cons head tail ih =>
      cases count with
      | zero => rfl
      | succ count =>
          rw [List.take_succ_cons, List.map_cons, List.mem_cons, not_or] at absent
          rw [List.filter_cons_of_pos (by simpa using Ne.symm absent.1), List.take_succ_cons,
            List.take_succ_cons, ih count absent.2]

private theorem take_filter_of_present (order : List (Handle Client)) (count : Nat)
    (removed : NodeId) (distinct : (order.map Handle.id).Nodup)
    (present : removed ∈ (order.take count).map Handle.id) :
    (order.filter (fun node => node.id ≠ removed)).take count =
      (order.take count).filter (fun node => node.id ≠ removed) ++ order[count]?.toList := by
  induction order generalizing count with
  | nil => rw [List.take_nil] at present; cases present
  | cons head tail ih =>
      cases count with
      | zero => cases present
      | succ count =>
          rw [List.map_cons, List.nodup_cons] at distinct
          rw [List.take_succ_cons, List.getElem?_cons_succ]
          by_cases same : head.id = removed
          · -- Only the head goes: its id does not come again, and the rest moves up by one.
            have others : ∀ node, node ∈ tail → decide (node.id ≠ removed) = true := by
              intro node member
              apply decide_eq_true
              intro again
              exact distinct.1 (same.trans again.symm ▸ List.mem_map_of_mem member)
            rw [List.filter_cons_of_neg (by simpa using same),
              List.filter_cons_of_neg (by simpa using same), List.filter_eq_self.mpr others,
              List.filter_eq_self.mpr
                (fun node member => others node (List.mem_of_mem_take member)),
              List.take_add_one]
          · have later : removed ∈ (tail.take count).map Handle.id := by
              rw [List.take_succ_cons, List.map_cons, List.mem_cons] at present
              exact present.resolve_left (fun equal => same equal.symm)
            rw [List.filter_cons_of_pos (by simpa using same),
              List.filter_cons_of_pos (by simpa using same), List.take_succ_cons,
              ih count distinct.2 later, List.cons_append]

private theorem mem_take_filter {Item : Type} (items : List Item) (keep : Item → Bool)
    (count : Nat) {item : Item} (member : item ∈ items.take count) (kept : keep item = true) :
    item ∈ (items.filter keep).take count := by
  have earlier : (items.take count).filter keep <+: items.filter keep :=
    (List.take_prefix count items).filter keep
  have few : ((items.take count).filter keep).length ≤ count :=
    (List.length_filter_le _ _).trans (List.length_take_le count items)
  have present := List.mem_filter.mpr ⟨member, kept⟩
  rw [List.prefix_iff_eq_take.mp earlier] at present
  exact List.take_subset_take_left _ few present

namespace Blueprint

/-- Whoever is in a quorum over all nodes is in the quorum over any part that keeps it. -/
theorem mem_quorum_filter (blueprint : Blueprint) (nodes : List (Handle Client))
    (keep : Handle Client → Bool) (key : Key) (placed : 0 < blueprint.virtualNodes)
    {node : Handle Client} (member : node ∈ (blueprint.ring nodes).quorum key)
    (kept : keep node = true) : node ∈ (blueprint.ring (nodes.filter keep)).quorum key := by
  rw [quorum_eq_take_fullOrder blueprint nodes key placed] at member
  rw [quorum_filter_eq_take blueprint nodes keep key placed]
  exact mem_take_filter _ keep _ member kept

/-- Quorums over a part of the nodes: the beginning of what the part leaves of the full order, which
is that of clockwise distances. Removing one node deletes it from the quorums it belonged to, where
the next node in the full order moves up behind the others, and leaves all other quorums as they
were. -/
theorem quorum_of_part (blueprint : Blueprint) (nodes : List (Handle Client)) (ring : Ring Client)
    (built : blueprint.build nodes = .ok ring) (key : Key) :
    blueprint.fullOrder nodes key =
        blueprint.nearestFirst nodes (blueprint.partitioner.token key) ∧
      (nodes ≠ [] → ∃ full, (blueprint.withQuorumSize nodes.length).build nodes = .ok full ∧
        full.quorum key = blueprint.fullOrder nodes key) ∧
      (∀ keep : Handle Client → Bool, ∃ part, blueprint.build (nodes.filter keep) = .ok part ∧
        part.quorum key =
          ((blueprint.fullOrder nodes key).filter keep).take blueprint.quorumSize) ∧
      ∀ removed : NodeId, ∃ part,
        blueprint.build (nodes.filter (fun node => node.id ≠ removed)) = .ok part ∧
          (removed ∉ ring.quorumIds key → part.quorum key = ring.quorum key) ∧
          (removed ∈ ring.quorumIds key →
            part.quorum key = (ring.quorum key).filter (fun node => node.id ≠ removed) ++
              (blueprint.fullOrder nodes key)[blueprint.quorumSize]?.toList) := by
  obtain ⟨admitted, rfl⟩ := (build_eq_ok_iff_admits blueprint nodes ring).mp built
  have placed := admitted.virtualNodes_pos
  have ordered := blueprint.fullOrder_eq_nearestFirst nodes key placed
  have distinct : ((blueprint.fullOrder nodes key).map Handle.id).Nodup := by
    rw [ordered]
    exact ((blueprint.nearestFirst_perm nodes _).map Handle.id).nodup_iff.mpr admitted.distinct
  have parts (keep : Handle Client → Bool) :=
    (admitted.sublist (nodes.filter_sublist (p := keep))).build
  refine ⟨ordered, ?_, ?_, ?_⟩
  · intro some_node
    have full : (blueprint.withQuorumSize nodes.length).Admits nodes :=
      { admitted with quorumSize_pos := List.length_pos_of_ne_nil some_node }
    exact ⟨_, full.build, rfl⟩
  · intro keep
    exact ⟨_, parts keep, blueprint.quorum_filter_eq_take nodes keep key placed⟩
  · intro removed
    refine ⟨_, parts _, ?_, ?_⟩
    · unfold Ring.quorumIds
      rw [quorum_filter_eq_take blueprint nodes _ key placed,
        quorum_eq_take_fullOrder blueprint nodes key placed]
      exact take_filter_of_absent _ _ removed
    · unfold Ring.quorumIds
      rw [quorum_filter_eq_take blueprint nodes _ key placed,
        quorum_eq_take_fullOrder blueprint nodes key placed]
      exact take_filter_of_present _ _ removed distinct

theorem quorum_of_part_tied :
    (ofLengths 2 2).build (Handle.named 0 ["ab", "c", "d"]) =
        .ok ((ofLengths 2 2).ring (Handle.named 0 ["ab", "c", "d"])) ∧
      "ab" ∈ ((ofLengths 2 2).ring (Handle.named 0 ["ab", "c", "d"])).quorumIds [1, 2, 3, 4] ∧
      ∃ part, (ofLengths 2 2).build
          ((Handle.named 0 ["ab", "c", "d"]).filter (fun node => node.id ≠ "ab")) = .ok part ∧
        part.quorumIds [1, 2, 3, 4] = ["c", "d"] := by
  have order := nearestFirst_tied
  rw [← fullOrder_eq_nearestFirst _ _ _ (by decide)] at order
  have quorum : ((ofLengths 2 2).ring (Handle.named 0 ["ab", "c", "d"])).quorum [1, 2, 3, 4] =
      Handle.named 0 ["ab", "c"] := by
    rw [quorum_eq_take_fullOrder _ _ _ (by decide), order]
    rfl
  have present : "ab" ∈
      ((ofLengths 2 2).ring (Handle.named 0 ["ab", "c", "d"])).quorumIds [1, 2, 3, 4] := by
    unfold Ring.quorumIds
    rw [quorum]
    decide
  obtain ⟨part, built, _, moved⟩ :=
    (quorum_of_part (ofLengths 2 2) _ _ build_tied [1, 2, 3, 4]).2.2.2 "ab"
  refine ⟨build_tied, present, part, built, ?_⟩
  unfold Ring.quorumIds
  rw [moved present, quorum, order]
  decide

end Blueprint

end QuorumRouting
