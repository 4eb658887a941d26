import QuorumRouting.Balancer.Basic
import QuorumRouting.Proofs.Doubles

/-!
What a weighing leaves in. Either everybody stays, because there is no choice, because the weights
are negligible or because no share is large enough; or what stays has a share that is large enough,
and then its weight is not zero. In the first case weights do not keep anybody out, zero weights
included.
-/

set_option autoImplicit false

namespace QuorumRouting

namespace Weight

def Negligible (weights : List Float) : Prop :=
  weights.countP isInfinite = 0 ∧
    total (weights.map usable) < negligiblePerItem * Float.ofNat weights.length

theorem vanishing_zero : Vanishing 0.0 :=
  .inr ⟨.positive, rfl⟩

/-- Shares in proportion, whatever the sums come to, leave nothing to a weight of zero. -/
theorem vanishing_proportional {weights : List Float} {position : Nat} {share : Float}
    (zero : weights[position]? = some 0.0)
    (found : (proportional weights)[position]? = some share) : Vanishing share := by
  unfold proportional at found
  dsimp only at found
  split at found
  · rw [List.getElem?_map, zero] at found
    rw [← Option.some.inj found]
    exact (vanishing_zero.div _).div _
  · rw [List.getElem?_map, zero] at found
    rw [← Option.some.inj found]
    exact (vanishing_zero.div _).div _

theorem vanishing_shares {weights : List Float} (weighty : ¬ Negligible weights) {position : Nat}
    {share : Float} (zero : weights[position]? = some 0.0)
    (found : (shares weights)[position]? = some share) : Vanishing share := by
  have finite : isInfinite 0.0 = false := rfl
  have useless : usable 0.0 = 0.0 := rfl
  unfold shares at found
  dsimp only at found
  split at found
  · rw [List.getElem?_map, zero] at found
    rw [← Option.some.inj found]
    dsimp only
    rw [if_neg (ne_true_of_eq_false finite)]
    exact vanishing_zero
  · rename_i none
    split at found
    · rename_i negligible
      exact absurd ⟨Nat.eq_zero_of_not_pos none, negligible⟩ weighty
    · refine vanishing_proportional ?_ found
      rw [List.getElem?_map, zero]
      exact congrArg some useless

end Weight

/-- Whatever makes shares of weights, one for each. -/
structure Sharing where
  shares : List Float → List Float
  length_shares : ∀ weights, (shares weights).length = weights.length

def Sharing.usual : Sharing :=
  { shares := Weight.shares, length_shares := Weight.length_shares }

namespace Selector

def cutoff (count : Nat) : Float :=
  exclusionFactor / Float.ofNat count

theorem unsigned_cutoff (count : Nat) : Unsigned (cutoff count) :=
  (unsigned_of_pos (by decide)).div (unsigned_ofNat count)

/-- Do all items stay, whatever their weights are? -/
def EverybodyStays (weights : List Float) : Prop :=
  weights.length ≤ 1 ∨ Weight.Negligible weights ∨
    ∀ share, share ∈ Weight.shares weights → ¬ cutoff weights.length < share

theorem positions_runningBounds (running : Float) (items : List (Nat × Float)) :
    (runningBounds running items).map Prod.fst = items.map Prod.fst := by
  induction items generalizing running with
  | nil => rfl
  | cons item rest ih =>
      cases rest with
      | nil => rfl
      | cons next rest => exact congrArg (List.cons item.1) (ih (running + item.2))

/-- The outcome of weighing items if shares are made in some other way. -/
def ofWeightsBy (sharing : Sharing) (weights : List Float) : Selector :=
  match weights with
  | [] => .empty
  | [_] => .single 0
  | _ =>
      match kept (sharing.shares weights) with
      | [(position, _)] => .single position
      | several =>
          let positions := several.map (fun (position, _) => position)
          let shares := sharing.shares (several.map (fun (_, share) => share))
          .weighted (runningBounds 0.0 (positions.zip shares))

theorem ofWeightsBy_usual : ofWeightsBy .usual = ofWeights :=
  rfl

/-- However many items are kept, the selector has their positions. -/
theorem positions_ofWeightsBy (sharing : Sharing) {weights : List Float}
    (several : 1 < weights.length) :
    (ofWeightsBy sharing weights).positions =
      (kept (sharing.shares weights)).map Prod.fst := by
  match weights, several with
  | first :: second :: rest, _ =>
      unfold ofWeightsBy
      dsimp only
      split
      · rename_i position share alone
        rw [alone]
        rfl
      · change (runningBounds 0.0 _).map Prod.fst = _
        rw [positions_runningBounds, List.map_fst_zip]
        apply Nat.le_of_eq
        rw [sharing.length_shares, List.length_map, List.length_map]

theorem positions_ofWeights {weights : List Float} (several : 1 < weights.length) :
    (ofWeights weights).positions = (kept (Weight.shares weights)).map Prod.fst := by
  rw [← ofWeightsBy_usual]
  exact positions_ofWeightsBy .usual several

def passing (shares : List Float) : List (Nat × Float) :=
  (shares.zipIdx.map (fun (share, position) => (position, share))).filter
    (fun (_, share) => cutoff shares.length < share)

theorem kept_eq (shares : List Float) :
    kept shares =
      if (passing shares).isEmpty then
        (List.range shares.length).map (fun position => (position, 1.0))
      else passing shares :=
  rfl

section

variable {shares : List Float}

theorem mem_passing_iff {item : Nat × Float} :
    item ∈ passing shares ↔
      shares[item.1]? = some item.2 ∧ cutoff shares.length < item.2 := by
  unfold passing
  rw [List.mem_filter, decide_eq_true_iff, List.mem_map]
  apply and_congr_left'
  constructor
  · rintro ⟨indexed, listed, rfl⟩
    exact List.mem_zipIdx_iff_getElem?.mp listed
  · intro found
    exact ⟨(item.2, item.1), List.mem_zipIdx_iff_getElem?.mpr found, rfl⟩

theorem kept_of_none (small : ∀ share, share ∈ shares → ¬ cutoff shares.length < share) :
    (kept shares).map Prod.fst = List.range shares.length := by
  have nobody : passing shares = [] := by
    apply List.eq_nil_iff_forall_not_mem.mpr
    intro item listed
    obtain ⟨found, passes⟩ := mem_passing_iff.mp listed
    exact small item.2 (List.mem_of_getElem? found) passes
  rw [kept_eq, nobody]
  change ((List.range shares.length).map (fun position => (position, 1.0))).map Prod.fst = _
  rw [List.map_map]
  exact List.map_id _

theorem kept_of_all (large : ∀ share, share ∈ shares → cutoff shares.length < share) :
    (kept shares).map Prod.fst = List.range shares.length := by
  have everybody : passing shares =
      shares.zipIdx.map (fun (share, position) => (position, share)) := by
    apply List.filter_eq_self.mpr
    intro item listed
    obtain ⟨indexed, found, rfl⟩ := List.mem_map.mp listed
    exact decide_eq_true (large indexed.1 (List.fst_mem_of_mem_zipIdx found))
  rw [kept_eq]
  split
  · rw [List.map_map]
    exact List.map_id _
  · rw [everybody, List.map_map, List.range_eq_range']
    exact List.zipIdx_map_snd 0 shares

theorem mem_kept {share : Float} (large : share ∈ shares) (passes : cutoff shares.length < share)
    {position : Nat} (present : position ∈ (kept shares).map Prod.fst) :
    ∃ own, shares[position]? = some own ∧ cutoff shares.length < own := by
  have somebody : (passing shares).isEmpty = false := by
    obtain ⟨place, found⟩ := List.mem_iff_getElem?.mp large
    have listed : (place, share) ∈ passing shares := mem_passing_iff.mpr ⟨found, passes⟩
    exact List.isEmpty_eq_false_iff.mpr (List.ne_nil_of_mem listed)
  rw [kept_eq, somebody] at present
  obtain ⟨item, listed, rfl⟩ := List.mem_map.mp present
  exact ⟨item.2, mem_passing_iff.mp listed⟩

end

theorem kept_of_equal {share : Float} (count : Nat) :
    (kept (List.replicate count share)).map Prod.fst = List.range count := by
  by_cases large : cutoff count < share
  · rw [kept_of_all]
    · rw [List.length_replicate]
    · intro own listed
      rw [List.length_replicate, List.eq_of_mem_replicate listed]
      exact large
  · rw [kept_of_none]
    · rw [List.length_replicate]
    · intro own listed
      rw [List.length_replicate, List.eq_of_mem_replicate listed]
      exact large

theorem shares_of_negligible {weights : List Float} (negligible : Weight.Negligible weights) :
    Weight.shares weights =
      List.replicate weights.length (Weight.equalShare weights.length) := by
  obtain ⟨finite, small⟩ := negligible
  unfold Weight.shares
  dsimp only
  rw [finite, if_neg (Nat.lt_irrefl 0), if_pos small]
  exact List.map_const'

/-- When everybody stays, the selector has all positions. -/
theorem positions_of_everybodyStays {weights : List Float} (stays : EverybodyStays weights) :
    (ofWeights weights).positions = List.range weights.length := by
  match weights, stays with
  | [], _ => rfl
  | [weight], _ => rfl
  | first :: second :: rest, stays =>
      rw [positions_ofWeights (by simp)]
      rcases stays with few | negligible | small
      · simp at few
      · rw [shares_of_negligible negligible]
        exact kept_of_equal _
      · rw [kept_of_none (by rw [Weight.length_shares]; exact small), Weight.length_shares]

/-- Otherwise an item that may be picked has a weight other than zero. -/
theorem ne_zero_of_mem_positions {weights : List Float} (leave : ¬ EverybodyStays weights)
    {position : Nat} (present : position ∈ (ofWeights weights).positions) :
    position < weights.length ∧ weights[position]? ≠ some 0.0 := by
  unfold EverybodyStays at leave
  rw [not_or, not_or, Classical.not_forall] at leave
  obtain ⟨several, weighty, share, exceeds⟩ := leave
  rw [Classical.not_imp, Classical.not_not] at exceeds
  obtain ⟨large, passes⟩ := exceeds
  rw [← Weight.length_shares] at passes
  rw [positions_ofWeights (Nat.lt_of_not_le several)] at present
  obtain ⟨own, found, above⟩ := mem_kept large passes present
  constructor
  · rw [← Weight.length_shares]
    exact (List.getElem?_eq_some_iff.mp found).1
  · intro zero
    exact not_lt_of_vanishing (unsigned_cutoff _) (Weight.vanishing_shares weighty zero found)
      above

/-! ### Positions -/

theorem kept_ne_nil {shares : List Float} (nonempty : shares ≠ []) : kept shares ≠ [] := by
  rw [kept_eq]
  split
  · intro none
    have empty := congrArg List.length none
    rw [List.length_map, List.length_range] at empty
    exact nonempty (List.eq_nil_of_length_eq_zero empty)
  · rename_i somebody
    exact fun none => somebody (List.isEmpty_iff.mpr none)

/-- What is kept stays in its order, and nothing is kept twice. -/
theorem sublist_kept (shares : List Float) :
    ((kept shares).map Prod.fst).Sublist (List.range shares.length) := by
  rw [kept_eq]
  split
  · rw [List.map_map]
    exact (List.map_id (List.range shares.length)).symm ▸ List.Sublist.refl _
  · have everybody : (shares.zipIdx.map (fun (share, position) => (position, share))).map
        Prod.fst = List.range shares.length := by
      rw [List.map_map, List.range_eq_range']
      exact List.zipIdx_map_snd 0 shares
    rw [← everybody]
    exact List.filter_sublist.map Prod.fst

section

variable (sharing : Sharing)

theorem positions_sublist (weights : List Float) :
    (ofWeightsBy sharing weights).positions.Sublist (List.range weights.length) := by
  match weights with
  | [] => exact .refl []
  | [weight] => exact .refl [0]
  | first :: second :: rest =>
      rw [positions_ofWeightsBy sharing (by simp), ← sharing.length_shares]
      exact sublist_kept _

theorem positions_ne_nil {weights : List Float} (nonempty : weights ≠ []) :
    (ofWeightsBy sharing weights).positions ≠ [] := by
  match weights, nonempty with
  | [weight], _ => nofun
  | first :: second :: rest, _ =>
      rw [positions_ofWeightsBy sharing (by simp)]
      apply mt List.map_eq_nil_iff.mp
      apply kept_ne_nil
      apply List.ne_nil_of_length_pos
      rw [sharing.length_shares]
      exact Nat.succ_pos _

theorem positions_lt (weights : List Float) {position : Nat}
    (present : position ∈ (ofWeightsBy sharing weights).positions) :
    position < weights.length :=
  List.mem_range.mp ((positions_sublist sharing weights).subset present)

/-- A table has more than one entry. -/
theorem one_lt_of_weighted {weights : List Float} {bounds : List (Nat × Float)}
    (tabled : ofWeightsBy sharing weights = .weighted bounds) : 1 < bounds.length := by
  match weights, tabled with
  | first :: second :: rest, tabled =>
      have shared : sharing.shares (first :: second :: rest) ≠ [] := by
        apply List.ne_nil_of_length_pos
        rw [sharing.length_shares]
        exact Nat.succ_pos _
      have positions : bounds.map Prod.fst = _ :=
        (congrArg Selector.positions tabled).symm.trans (positions_ofWeightsBy sharing (by simp))
      have sameLength := congrArg List.length positions
      rw [List.length_map, List.length_map] at sameLength
      unfold ofWeightsBy at tabled
      dsimp only at tabled
      split at tabled
      · cases tabled
      · rename_i several
        rw [sameLength]
        match shape : kept (sharing.shares (first :: second :: rest)) with
        | [] => exact absurd shape (kept_ne_nil shared)
        | [item] => exact absurd shape (several item.1 item.2)
        | _ :: _ :: others => simp

end

/-! ### Picks -/

/-- Picks by a search of the upper ends that may stop at any of them, or go past all. -/
def pickBy (search : List Float → Float → Nat) : Selector → Float → Option Nat
  | .empty, _ => none
  | .single position, _ => some position
  | .weighted bounds, draw =>
      (bounds[min (search (bounds.map Prod.snd) draw) (bounds.length - 1)]?).map Prod.fst

/-- The search that stops at the first upper end which the draw does not pass. -/
def firstReached (ends : List Float) (draw : Float) : Nat :=
  ends.findIdx (fun bound => !(bound < draw))

theorem pick_weighted (bounds : List (Nat × Float)) (draw : Float) :
    (weighted bounds).pick draw =
      (bounds.find? (fun item => !(item.2 < draw))).elim (bounds.getLast?.map Prod.fst)
        (fun item => some item.1) := by
  unfold pick
  dsimp only
  generalize bounds.find? (fun item => !(item.2 < draw)) = found
  cases found with
  | none => rfl
  | some item => rfl

theorem pickBy_firstReached (selector : Selector) (draw : Float) :
    selector.pickBy firstReached draw = selector.pick draw := by
  cases selector with
  | empty => rfl
  | single position => rfl
  | weighted bounds =>
      let reached : Nat × Float → Bool := fun item => !(item.2 < draw)
      rw [pick_weighted, List.find?_eq_getElem?_findIdx]
      unfold pickBy firstReached
      dsimp only
      rw [List.findIdx_map]
      change (bounds[min (bounds.findIdx reached) (bounds.length - 1)]?).map Prod.fst =
        (bounds[bounds.findIdx reached]?).elim (bounds.getLast?.map Prod.fst)
          (fun item => some item.1)
      rcases Nat.lt_or_ge (bounds.findIdx reached) bounds.length with within | past
      · rw [Nat.min_eq_left (by omega), List.getElem?_eq_getElem within]
        rfl
      · rw [Nat.min_eq_right (by omega), List.getElem?_eq_none past, List.getLast?_eq_getElem?]
        rfl

/-- Where anything may be picked, every search picks something at every draw. -/
theorem pickBy_of_positions (search : List Float → Float → Nat) (selector : Selector)
    (draw : Float) (possible : selector.positions ≠ []) :
    ∃ position, selector.pickBy search draw = some position ∧ position ∈ selector.positions := by
  cases selector with
  | empty => exact absurd rfl possible
  | single position => exact ⟨position, rfl, List.mem_cons_self⟩
  | weighted bounds =>
      have present : bounds ≠ [] := fun none => possible (congrArg (List.map Prod.fst) none)
      have within :
          min (search (bounds.map Prod.snd) draw) (bounds.length - 1) < bounds.length := by
        have nonempty := List.length_pos_iff.mpr present
        omega
      refine ⟨bounds[min (search (bounds.map Prod.snd) draw) (bounds.length - 1)].1, ?_,
        List.mem_map_of_mem (List.getElem_mem within)⟩
      unfold pickBy
      dsimp only
      rw [List.getElem?_eq_getElem within]
      rfl

theorem pick_of_positions (selector : Selector) (draw : Float)
    (possible : selector.positions ≠ []) :
    ∃ position, selector.pick draw = some position ∧ position ∈ selector.positions := by
  rw [← pickBy_firstReached]
  exact pickBy_of_positions firstReached selector draw possible

end Selector

end QuorumRouting
