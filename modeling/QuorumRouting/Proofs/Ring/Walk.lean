import Mathlib.Data.List.TakeWhile
import QuorumRouting.Ring.Blueprint
import QuorumRouting.Ring.Lookup

/-!
The walk of a token meets the virtual nodes in the order of their distances clockwise from the
token, those of equal distance in the order of their slots. The rings of a blueprint are sorted,
so a walk starts in the right place: what comes before the start in the list is met last, after
the wrap past the largest token.
-/

set_option autoImplicit false

namespace QuorumRouting

namespace VirtualNode

theorem atMost_iff (first second : VirtualNode) :
    first.atMost second = true ↔
      first.token < second.token ∨ first.token = second.token ∧ first.slot ≤ second.slot := by
  simp [atMost]

theorem atMost_trans (first second third : VirtualNode)
    (before : first.atMost second = true) (after : second.atMost third = true) :
    first.atMost third = true := by
  rw [atMost_iff, UInt64.lt_iff_toNat_lt, ← UInt64.toNat_inj] at *
  omega

theorem atMost_total (first second : VirtualNode) :
    (first.atMost second || second.atMost first) = true := by
  rw [Bool.or_eq_true, atMost_iff, atMost_iff, UInt64.lt_iff_toNat_lt, UInt64.lt_iff_toNat_lt,
    ← UInt64.toNat_inj, ← UInt64.toNat_inj]
  omega

theorem sorted_pairwise (places : List VirtualNode) :
    (sorted places).Pairwise (fun first second => first.atMost second = true) :=
  List.pairwise_mergeSort atMost_trans atMost_total places

def distance (token : Token) (place : VirtualNode) : Nat :=
  (token.distanceTo place.token).toNat

/-- Is the first met no later than the second, going clockwise from a token? -/
def MetBefore (token : Token) (first second : VirtualNode) : Prop :=
  distance token first < distance token second ∨
    distance token first = distance token second ∧ first.slot ≤ second.slot

theorem distance_of_le (token : Token) (place : VirtualNode) (ahead : ¬ place.token < token) :
    distance token place = place.token.toNat - token.toNat := by
  have bound := place.token.toNat_lt
  rw [UInt64.lt_iff_toNat_lt] at ahead
  unfold distance
  rw [Token.toNat_distanceTo]
  unfold UInt64.size
  omega

theorem distance_of_lt (token : Token) (place : VirtualNode) (behind : place.token < token) :
    distance token place = UInt64.size - token.toNat + place.token.toNat := by
  have bound := token.toNat_lt
  rw [UInt64.lt_iff_toNat_lt] at behind
  unfold distance
  rw [Token.toNat_distanceTo]
  unfold UInt64.size
  omega

/-- On one side of a token the order of the ring is the order of distances. -/
theorem metBefore_of_atMost {token : Token} {first second : VirtualNode}
    (ordered : first.atMost second = true) (side : first.token < token ↔ second.token < token) :
    MetBefore token first second := by
  rw [atMost_iff, UInt64.lt_iff_toNat_lt, ← UInt64.toNat_inj] at ordered
  unfold MetBefore
  by_cases behind : second.token < token
  · rw [distance_of_lt token first (side.mpr behind), distance_of_lt token second behind]
    omega
  · have ahead := mt side.mp behind
    rw [distance_of_le token first ahead, distance_of_le token second behind]
    rw [UInt64.lt_iff_toNat_lt] at ahead behind
    omega

/-- Everything at or after a token is met before everything behind it. -/
theorem metBefore_of_wrap {token : Token} {first second : VirtualNode}
    (ahead : ¬ first.token < token) (behind : second.token < token) :
    MetBefore token first second := by
  left
  rw [distance_of_le token first ahead, distance_of_lt token second behind]
  have bound := first.token.toNat_lt
  rw [UInt64.lt_iff_toNat_lt] at ahead
  unfold UInt64.size
  omega

end VirtualNode

namespace Ring

variable {Client : Type}

open VirtualNode

private theorem mem_takeWhile_behind (token : Token) (places : List VirtualNode)
    (place : VirtualNode) (member : place ∈ places.takeWhile (fun place => place.token < token)) :
    place.token < token := by
  simpa using List.mem_takeWhile_imp member

private theorem mem_dropWhile_ahead (token : Token) (places : List VirtualNode)
    (ordered : places.Pairwise (fun first second => first.atMost second = true))
    (place : VirtualNode) (member : place ∈ places.dropWhile (fun place => place.token < token)) :
    ¬ place.token < token := by
  induction places with
  | nil => cases member
  | cons first rest ih =>
      obtain ⟨least, restOrdered⟩ := List.pairwise_cons.mp ordered
      by_cases behind : first.token < token
      · rw [List.dropWhile_cons_of_pos (by simpa using behind)] at member
        exact ih restOrdered member
      · rw [List.dropWhile_cons_of_neg (by simpa using behind)] at member
        rcases List.mem_cons.mp member with same | later
        · exact same ▸ behind
        · have above := least place later
          rw [atMost_iff, UInt64.lt_iff_toNat_lt, ← UInt64.toNat_inj] at above
          rw [UInt64.lt_iff_toNat_lt] at behind ⊢
          omega

theorem walk_pairwise (ring : Ring Client) (token : Token)
    (ordered : ring.places.Pairwise (fun first second => first.atMost second = true)) :
    (ring.walk token).Pairwise (MetBefore token) := by
  unfold walk
  rw [List.pairwise_append]
  refine ⟨?_, ?_, ?_⟩
  · apply (ordered.sublist (List.dropWhile_sublist _)).imp_of_mem
    intro first second firstMember secondMember before
    exact metBefore_of_atMost before (iff_of_false
      (mem_dropWhile_ahead token _ ordered first firstMember)
      (mem_dropWhile_ahead token _ ordered second secondMember))
  · apply (ordered.sublist (List.takeWhile_sublist _)).imp_of_mem
    intro first second firstMember secondMember before
    exact metBefore_of_atMost before (iff_of_true
      (mem_takeWhile_behind token _ first firstMember)
      (mem_takeWhile_behind token _ second secondMember))
  · intro first firstMember second secondMember
    exact metBefore_of_wrap (mem_dropWhile_ahead token _ ordered first firstMember)
      (mem_takeWhile_behind token _ second secondMember)

/-- A walk meets every virtual node of the ring once. -/
theorem walk_perm (ring : Ring Client) (token : Token) :
    (ring.walk token).Perm ring.places := by
  have rotated : (ring.walk token).Perm
      (ring.places.takeWhile (fun place => place.token < token) ++
        ring.places.dropWhile (fun place => place.token < token)) := List.perm_append_comm
  rw [List.takeWhile_append_dropWhile] at rotated
  exact rotated

end Ring

end QuorumRouting
