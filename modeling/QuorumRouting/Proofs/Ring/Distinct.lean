import Mathlib.Data.List.Basic
import QuorumRouting.Ring.Lookup

/-!
First occurrences. Collecting different slots along a walk keeps the first occurrence of each and
stops at the count asked for; on an ordered walk the slots collected are in the order of their
first occurrences.
-/

set_option autoImplicit false

namespace QuorumRouting

theorem firstDifferent_eq_take (count : Nat) (slots : List Nat) :
    firstDifferent count slots = slots.eraseDups.take count := by
  induction count generalizing slots with
  | zero => simp [firstDifferent]
  | succ count ih =>
      cases slots with
      | nil => rfl
      | cons slot rest =>
          rw [firstDifferent, List.eraseDups_cons, List.take_succ_cons, ih]
          congr 4
          funext other
          by_cases same : other = slot
          · simp [same]
          · simp [same]

private theorem ne_of_mem_others {Item : Type} (value : Item → Nat) (head : Item)
    (tail : List Item) (other : Nat)
    (member : other ∈
      ((tail.filter (fun item => !value item == value head)).map value).eraseDups) :
    value head ≠ other := by
  obtain ⟨item, itemMember, itemValue⟩ := List.mem_map.mp (List.mem_eraseDups.mp member)
  have kept := (List.mem_filter.mp itemMember).2
  intro same
  simp [itemValue, ← same] at kept

/-- Of two values met on an ordered list, the one collected first was met before every occurrence
of the other. -/
theorem pairwise_eraseDups {Item : Type} (before : Item → Item → Prop) (value : Item → Nat)
    (items : List Item) (ordered : items.Pairwise before) :
    (items.map value).eraseDups.Pairwise (fun first second => first ≠ second ∧
      ∃ earlier, earlier ∈ items ∧ value earlier = first ∧
        ∀ later, later ∈ items → value later = second → before earlier later) := by
  match items with
  | [] => exact List.Pairwise.nil
  | head :: tail =>
      obtain ⟨least, tailOrdered⟩ := List.pairwise_cons.mp ordered
      have shorter :
          (tail.filter (fun item => !value item == value head)).length < tail.length + 1 :=
        Nat.lt_succ_of_le (List.length_filter_le _ _)
      have others := pairwise_eraseDups before value
        (tail.filter (fun item => !value item == value head))
        (tailOrdered.sublist List.filter_sublist)
      rw [List.map_cons, List.eraseDups_cons, List.filter_map, List.pairwise_cons]
      constructor
      · intro second member
        have different := ne_of_mem_others value head tail second member
        refine ⟨different, head, List.mem_cons_self, rfl, ?_⟩
        intro later laterMember laterValue
        rcases List.mem_cons.mp laterMember with same | inTail
        · subst same
          exact absurd laterValue different
        · exact least later inTail
      · apply others.imp_of_mem
        intro first second _ secondMember
        rintro ⟨different, earlier, earlierMember, earlierValue, met⟩
        have notHead := ne_of_mem_others value head tail second secondMember
        refine ⟨different, earlier,
          List.mem_cons_of_mem head (List.mem_filter.mp earlierMember).1, earlierValue, ?_⟩
        intro later laterMember laterValue
        rcases List.mem_cons.mp laterMember with same | inTail
        · subst same
          exact absurd laterValue notHead
        · have kept : (!value later == value head) = true := by
            simpa [laterValue] using Ne.symm notHead
          exact met later (List.mem_filter.mpr ⟨inTail, kept⟩) laterValue
termination_by items.length

theorem nodup_eraseDups (slots : List Nat) : slots.eraseDups.Nodup := by
  have collected := pairwise_eraseDups (fun _ _ => True) id slots
    (List.pairwise_of_forall (fun _ _ => trivial))
  rw [List.map_id] at collected
  exact collected.imp And.left

end QuorumRouting
