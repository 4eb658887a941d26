import Mathlib
import QuorumRouting.Proofs.Ring.Nearest
import QuorumRouting.Ring.Ownership

/-!
How the spans of the virtual nodes divide the ring. From the first virtual node to the last one the
spans add up to the way between the two, and the span of the first is the way that is missing for a
full turn. A way that leads once around is as long as no way at all, so the full turn is lost on a
ring where several virtual nodes share their only token, and nowhere else.
-/

set_option autoImplicit false

namespace QuorumRouting

namespace Ring

variable {Client : Type}

def ownedIn (spans : List (Nat × Nat)) (slot : Nat) : Nat :=
  (spans.filter (fun (owner, _) => owner = slot)).foldr (fun (_, span) total => span + total) 0

def extent (spans : List (Nat × Nat)) : Nat :=
  spans.foldr (fun (_, span) total => span + total) 0

/-- The spans of virtual nodes that come one after another, behind an earlier one. -/
def stretches : VirtualNode → List VirtualNode → List (Nat × Nat)
  | _, [] => []
  | earlier, place :: rest =>
      (place.slot, (earlier.token.distanceTo place.token).toNat) :: stretches place rest

def lastOf (first : VirtualNode) (rest : List VirtualNode) : VirtualNode :=
  (first :: rest).getLast (List.cons_ne_nil first rest)

def wrapSpan (first : VirtualNode) (rest : List VirtualNode) : Nat :=
  if rest = [] then fullTurn else ((lastOf first rest).token.distanceTo first.token).toNat

/-- Is a virtual node alone, or do some of them differ in their tokens? -/
def Divided (ring : Ring Client) : Prop :=
  ring.tokenCount = 1 ∨
    ∃ first second, first ∈ ring.places ∧ second ∈ ring.places ∧ first.token ≠ second.token

theorem ownedIn_cons (owner span : Nat) (rest : List (Nat × Nat)) (slot : Nat) :
    ownedIn ((owner, span) :: rest) slot =
      (if owner = slot then span else 0) + ownedIn rest slot := by
  unfold ownedIn
  by_cases same : owner = slot
  · rw [List.filter_cons_of_pos (by simpa using same), List.foldr_cons, if_pos same]
  · rw [List.filter_cons_of_neg (by simpa using same), if_neg same, Nat.zero_add]

theorem extent_cons (owner span : Nat) (rest : List (Nat × Nat)) :
    extent ((owner, span) :: rest) = span + extent rest :=
  rfl

/-- What the slots own together is what the spans hold, as long as every span has its slot. -/
theorem sum_ownedIn (spans : List (Nat × Nat)) (count : Nat)
    (within : ∀ span, span ∈ spans → span.1 < count) :
    ∑ slot ∈ Finset.range count, ownedIn spans slot = extent spans := by
  induction spans with
  | nil => exact Finset.sum_const_zero
  | cons span rest ih =>
      obtain ⟨owner, width⟩ := span
      have bound : owner < count := within (owner, width) List.mem_cons_self
      have later := ih (fun span member => within span (List.mem_cons_of_mem _ member))
      simp only [ownedIn_cons, Finset.sum_add_distrib, later, Finset.sum_ite_eq,
        Finset.mem_range, if_pos bound, extent_cons]

theorem ownedIn_le_extent (spans : List (Nat × Nat)) (slot : Nat) :
    ownedIn spans slot ≤ extent spans := by
  induction spans with
  | nil => exact Nat.le_refl 0
  | cons span rest ih =>
      rw [ownedIn_cons, extent_cons]
      split
      · omega
      · omega

theorem extent_append (spans others : List (Nat × Nat)) :
    extent (spans ++ others) = extent spans + extent others := by
  induction spans with
  | nil => exact (Nat.zero_add _).symm
  | cons span rest ih =>
      rw [List.cons_append, extent_cons, extent_cons, ih, Nat.add_assoc]

/-! ### The way through the virtual nodes -/

theorem lastOf_cons (first second : VirtualNode) (rest : List VirtualNode) :
    lastOf first (second :: rest) = lastOf second rest :=
  List.getLast_cons (List.cons_ne_nil second rest)

theorem zipWith_eq_stretches (earlier : VirtualNode) (places : List VirtualNode) :
    List.zipWith (fun earlier place =>
      (place.slot, (earlier.token.distanceTo place.token).toNat)) (earlier :: places) places =
      stretches earlier places := by
  induction places generalizing earlier with
  | nil => rfl
  | cons place rest ih =>
      rw [List.zipWith_cons_cons, ih]
      rfl

theorem spans_eq (ring : Ring Client) (first : VirtualNode) (rest : List VirtualNode)
    (placed : ring.places = first :: rest) :
    ring.spans = (first.slot, wrapSpan first rest) :: stretches first rest := by
  unfold spans wrapSpan
  rw [placed]
  cases rest with
  | nil => rfl
  | cons second others =>
      dsimp only
      rw [List.zipWith_cons_cons, zipWith_eq_stretches, if_neg (List.cons_ne_nil second others)]
      rfl

theorem map_fst_stretches (earlier : VirtualNode) (places : List VirtualNode) :
    (stretches earlier places).map Prod.fst = places.map VirtualNode.slot := by
  induction places generalizing earlier with
  | nil => rfl
  | cons place rest ih => exact congrArg (place.slot :: ·) (ih place)

/-- Spans belong to the virtual nodes of the ring in their order. -/
theorem map_fst_spans (ring : Ring Client) :
    ring.spans.map Prod.fst = ring.places.map VirtualNode.slot := by
  cases placed : ring.places with
  | nil =>
      unfold spans
      rw [placed]
      rfl
  | cons first rest =>
      rw [spans_eq ring first rest placed]
      exact congrArg (first.slot :: ·) (map_fst_stretches first rest)

def Ascending (places : List VirtualNode) : Prop :=
  places.Pairwise (fun earlier later => earlier.token.toNat ≤ later.token.toNat)

theorem ascending_of_sorted {places : List VirtualNode}
    (ordered : places.Pairwise (fun first second => first.atMost second = true)) :
    Ascending places := by
  apply ordered.imp
  intro first second before
  rw [VirtualNode.atMost_iff, UInt64.lt_iff_toNat_lt, ← UInt64.toNat_inj] at before
  omega

theorem toNat_distanceTo_of_le {start target : Token} (ahead : start.toNat ≤ target.toNat) :
    (start.distanceTo target).toNat = target.toNat - start.toNat := by
  have bound := target.toNat_lt
  rw [Token.toNat_distanceTo]
  unfold UInt64.size
  omega

theorem le_lastOf {first : VirtualNode} {rest : List VirtualNode}
    (ascending : Ascending (first :: rest)) {place : VirtualNode} (member : place ∈ first :: rest) :
    place.token.toNat ≤ (lastOf first rest).token.toNat := by
  induction rest generalizing first place with
  | nil =>
      rw [List.mem_singleton.mp member]
      exact Nat.le_refl _
  | cons second others ih =>
      obtain ⟨least, later⟩ := List.pairwise_cons.mp ascending
      rw [lastOf_cons]
      rcases List.mem_cons.mp member with same | inRest
      · subst same
        exact Nat.le_trans (least second List.mem_cons_self) (ih later List.mem_cons_self)
      · exact ih later inRest

/-- On the way upwards nothing is left out and nothing is counted twice. -/
theorem extent_stretches (first : VirtualNode) (rest : List VirtualNode)
    (ascending : Ascending (first :: rest)) :
    first.token.toNat + extent (stretches first rest) = (lastOf first rest).token.toNat := by
  induction rest generalizing first with
  | nil => rfl
  | cons second others ih =>
      obtain ⟨least, later⟩ := List.pairwise_cons.mp ascending
      have step := least second List.mem_cons_self
      have onward := ih second later
      rw [lastOf_cons, ← onward, stretches, extent_cons, toNat_distanceTo_of_le step]
      omega

theorem divided_iff (ring : Ring Client) (first : VirtualNode) (rest : List VirtualNode)
    (placed : ring.places = first :: rest) (ascending : Ascending (first :: rest)) :
    ring.Divided ↔ rest = [] ∨ first.token.toNat < (lastOf first rest).token.toNat := by
  unfold Divided tokenCount
  rw [placed, List.length_cons, Nat.add_eq_right, List.length_eq_zero_iff]
  have least : ∀ place, place ∈ first :: rest → first.token.toNat ≤ place.token.toNat := by
    intro place member
    rcases List.mem_cons.mp member with same | later
    · subst same
      exact Nat.le_refl _
    · exact (List.pairwise_cons.mp ascending).1 place later
  constructor
  · rintro (alone | ⟨one, other, oneMember, otherMember, different⟩)
    · exact .inl alone
    · right
      have fromOne := least one oneMember
      have toOne := le_lastOf ascending oneMember
      have fromOther := least other otherMember
      have toOther := le_lastOf ascending otherMember
      rw [ne_eq, ← UInt64.toNat_inj] at different
      omega
  · rintro (alone | below)
    · exact .inl alone
    · refine .inr ⟨first, lastOf first rest, List.mem_cons_self, List.getLast_mem _, ?_⟩
      rw [ne_eq, ← UInt64.toNat_inj]
      omega

/-- The first span is what the others leave of a full turn. -/
theorem wrapSpan_of_divided (first : VirtualNode) (rest : List VirtualNode)
    (divided : rest = [] ∨ first.token.toNat < (lastOf first rest).token.toNat) :
    wrapSpan first rest = fullTurn - ((lastOf first rest).token.toNat - first.token.toNat) := by
  unfold wrapSpan
  rcases divided with alone | below
  · subst alone
    rw [if_pos rfl]
    change fullTurn = fullTurn - (first.token.toNat - first.token.toNat)
    omega
  · have many : rest ≠ [] := by
      rintro rfl
      exact Nat.lt_irrefl _ below
    have bound := (lastOf first rest).token.toNat_lt
    rw [if_neg many, Token.toNat_distanceTo]
    unfold fullTurn UInt64.size
    omega

theorem extent_spans (ring : Ring Client) (first : VirtualNode) (rest : List VirtualNode)
    (placed : ring.places = first :: rest) (ascending : Ascending (first :: rest)) :
    (ring.Divided → extent ring.spans = fullTurn) ∧ (¬ ring.Divided → extent ring.spans = 0) := by
  have way := extent_stretches first rest ascending
  have upwards := le_lastOf ascending List.mem_cons_self
  have bound := (lastOf first rest).token.toNat_lt
  rw [divided_iff ring first rest placed ascending, spans_eq ring first rest placed, extent_cons]
  constructor
  · intro divided
    rw [wrapSpan_of_divided first rest divided]
    unfold fullTurn UInt64.size
    omega
  · intro heaped
    rw [not_or] at heaped
    have together : (lastOf first rest).token = first.token := UInt64.toNat_inj.mp (by omega)
    unfold wrapSpan
    rw [if_neg heaped.1, together, Token.distanceTo_self, UInt64.toNat_zero]
    rw [together] at way
    omega

end Ring

namespace Blueprint

variable {Client : Type}

open QuorumRouting.Ring

theorem ascending_ring (blueprint : Blueprint) (nodes : List (Handle Client)) :
    Ascending (blueprint.ring nodes).places :=
  ascending_of_sorted (VirtualNode.sorted_pairwise _)

theorem slot_lt_of_mem_spans (blueprint : Blueprint) (nodes : List (Handle Client))
    {span : Nat × Nat} (member : span ∈ (blueprint.ring nodes).spans) : span.1 < nodes.length := by
  have listed := List.mem_map_of_mem (f := Prod.fst) member
  rw [map_fst_spans] at listed
  obtain ⟨place, placed, same⟩ := List.mem_map.mp listed
  obtain ⟨node, atSlot, -⟩ := (blueprint.mem_places_iff nodes place).mp placed
  rw [← same]
  exact (List.getElem?_eq_some_iff.mp atSlot).1

theorem places_ne_nil (blueprint : Blueprint) (nodes : List (Handle Client))
    (placed : 0 < blueprint.virtualNodes) (some_node : nodes ≠ []) :
    (blueprint.ring nodes).places ≠ [] := by
  have bound := List.length_pos_of_ne_nil some_node
  apply List.ne_nil_of_mem (a := VirtualNode.place blueprint.partitioner nodes[0].id 0 0)
  rw [mem_places_iff]
  exact ⟨nodes[0], List.getElem?_eq_getElem bound, 0, placed, rfl⟩

/-- The nodes own the full turn together, or nothing when several virtual nodes share the only
token. -/
theorem ownership_total_of_build (blueprint : Blueprint) (nodes : List (Handle Client))
    (ring : Ring Client) (built : blueprint.build nodes = .ok ring) (some_node : nodes ≠ []) :
    (ring.Divided →
        ∑ slot ∈ Finset.range nodes.length, ring.ownedTokens slot = fullTurn) ∧
      (¬ ring.Divided → ∀ slot, ring.ownedTokens slot = 0) := by
  obtain ⟨admitted, rfl⟩ := (build_eq_ok_iff_admits blueprint nodes ring).mp built
  obtain ⟨first, rest, placed⟩ := List.exists_cons_of_ne_nil
    (blueprint.places_ne_nil nodes admitted.virtualNodes_pos some_node)
  have ascending := blueprint.ascending_ring nodes
  rw [placed] at ascending
  obtain ⟨whole, nothing⟩ := extent_spans _ first rest placed ascending
  constructor
  · intro divided
    rw [← whole divided]
    exact sum_ownedIn _ _ (fun span => blueprint.slot_lt_of_mem_spans nodes)
  · intro heaped slot
    exact Nat.le_zero.mp (nothing heaped ▸ ownedIn_le_extent _ slot)

/-- The ring of three nodes whose six virtual nodes have two tokens. -/
theorem places_tied : ((ofLengths 2 2).ring (Handle.named 0 ["ab", "c", "d"])).places =
    [⟨3, 1⟩, ⟨3, 1⟩, ⟨3, 2⟩, ⟨3, 2⟩, ⟨4, 0⟩, ⟨4, 0⟩] := by
  cbv

theorem divided_tied : ((ofLengths 2 2).ring (Handle.named 0 ["ab", "c", "d"])).Divided := by
  unfold Divided
  rw [places_tied]
  exact .inr ⟨⟨3, 1⟩, ⟨4, 0⟩, by decide, by decide, by decide⟩

theorem ownership_total_tied :
    (ofLengths 2 2).build (Handle.named 0 ["ab", "c", "d"]) =
        .ok ((ofLengths 2 2).ring (Handle.named 0 ["ab", "c", "d"])) ∧
      Handle.named 0 ["ab", "c", "d"] ≠ [] ∧
      ∑ slot ∈ Finset.range 3,
        ((ofLengths 2 2).ring (Handle.named 0 ["ab", "c", "d"])).ownedTokens slot = fullTurn := by
  have some_node : Handle.named 0 ["ab", "c", "d"] ≠ [] := by decide
  exact ⟨build_tied, some_node,
    (ownership_total_of_build (ofLengths 2 2) _ _ build_tied some_node).1 divided_tied⟩

/-- Two virtual nodes of one token own nothing of the ring, although they are alone on it. -/
theorem full_turn_lost : ∃ ring : Ring Unit,
    (ofLengths 2 1).build (Handle.named 0 ["a"]) = .ok ring ∧ Handle.named 0 ["a"] ≠ [] ∧
      ∑ slot ∈ Finset.range 1, ring.ownedTokens slot ≠ fullTurn := by
  have nothing : ((ofLengths 2 1).ring (Handle.named 0 ["a"])).ownedTokens 0 = 0 := by cbv
  refine ⟨_, (build_eq_ok_iff _ _ _).mpr ⟨by decide, rfl⟩, by decide, ?_⟩
  rw [Finset.sum_range_one, nothing]
  decide

end Blueprint

end QuorumRouting
