import QuorumRouting.Proofs.Balancer.Selection
import QuorumRouting.Proofs.Balancer.Weighing

/-!
What a balancer offers. However its handles were weighed last, it can pick some of them, each at its
own position and in order, as long as it has handles at all; every draw picks one of these, draws
below zero, above one and those that are no number included. None of this rests on what the
arithmetic of shares comes to, or on where the search of the upper ends stops.
-/

set_option autoImplicit false

namespace QuorumRouting

/-- The kind of a balancer that can pick so many handles. -/
def BalancerKind.ofCount : Nat → BalancerKind
  | 0 => .empty
  | 1 => .single
  | _ => .weightedRandom

namespace Balancer

variable {Client : Type}

def pickBy (search : List Float → Float → Nat) (balancer : Balancer Client) (draw : Float) :
    Option (Handle Client) :=
  (balancer.selector.pickBy search draw).bind (fun position => balancer.handles[position]?)

theorem pickBy_firstReached (balancer : Balancer Client) (draw : Float) :
    balancer.pickBy Selector.firstReached draw = balancer.pick draw := by
  unfold pickBy pick
  rw [Selector.pickBy_firstReached]

structure Offers (balancer : Balancer Client) (pick : Float → Option (Handle Client)) : Prop where
  positions_sublist :
    balancer.selector.positions.Sublist (List.range balancer.handles.length)
  positions_ne_nil : balancer.handles ≠ [] → balancer.selector.positions ≠ []
  selectable_eq : balancer.selectable.map some =
    balancer.selector.positions.map (fun position => (balancer.handles[position]?).map Handle.id)
  kind_eq : balancer.kind = .ofCount balancer.selector.positions.length
  pick_eq_none_iff : ∀ draw, pick draw = none ↔ balancer.handles = []
  pick_eq_some : ∀ draw handle, pick draw = some handle →
    ∃ position, position ∈ balancer.selector.positions ∧ balancer.handles[position]? = some handle

section

variable {balancer : Balancer Client}

/-- No position is left out for want of a handle. -/
theorem map_some_selectable
    (within : ∀ position, position ∈ balancer.selector.positions →
      position < balancer.handles.length) :
    balancer.selectable.map some =
      balancer.selector.positions.map
        (fun position => (balancer.handles[position]?).map Handle.id) := by
  unfold selectable
  generalize balancer.selector.positions = positions at within ⊢
  let find (position : Nat) : Option NodeId := (balancer.handles[position]?).map Handle.id
  change (positions.filterMap find).map some = positions.map find
  induction positions with
  | nil => rfl
  | cons position rest ih =>
      have here := within position List.mem_cons_self
      have found : find position = some balancer.handles[position].id :=
        congrArg (Option.map Handle.id) (List.getElem?_eq_getElem here)
      rw [List.filterMap_cons_some found, List.map_cons, List.map_cons, found,
        ih (fun other present => within other (List.mem_cons_of_mem position present))]

theorem kind_eq_ofCount
    (tabled : ∀ bounds, balancer.selector = .weighted bounds → 1 < bounds.length) :
    balancer.kind = .ofCount balancer.selector.positions.length := by
  unfold kind
  cases shape : balancer.selector with
  | empty => rfl
  | single position => rfl
  | weighted bounds =>
      change _ = BalancerKind.ofCount (bounds.map Prod.fst).length
      rw [List.length_map]
      match bounds, tabled bounds shape with
      | _ :: _ :: _, _ => rfl

theorem offers_of_weights (sharing : Sharing) (search : List Float → Float → Nat)
    {readings : List Float} (selector_eq : balancer.selector = .ofWeightsBy sharing readings)
    (length_eq : readings.length = balancer.handles.length) :
    balancer.Offers (balancer.pickBy search) := by
  have sublist : balancer.selector.positions.Sublist (List.range balancer.handles.length) := by
    rw [selector_eq, ← length_eq]
    exact Selector.positions_sublist sharing readings
  have within (position : Nat) (present : position ∈ balancer.selector.positions) :
      position < balancer.handles.length :=
    List.mem_range.mp (sublist.subset present)
  have some (nonempty : balancer.handles ≠ []) : balancer.selector.positions ≠ [] := by
    rw [selector_eq]
    apply Selector.positions_ne_nil
    apply List.ne_nil_of_length_pos
    rw [length_eq]
    exact List.length_pos_iff.mpr nonempty
  refine
    { positions_sublist := sublist
      positions_ne_nil := some
      selectable_eq := map_some_selectable within
      kind_eq := kind_eq_ofCount (fun bounds tabled => ?_)
      pick_eq_none_iff := ?_
      pick_eq_some := ?_ }
  · exact Selector.one_lt_of_weighted sharing (selector_eq.symm.trans tabled)
  · intro draw
    by_cases none : balancer.handles = []
    · have empty : balancer.selector = .empty := by
        rw [none] at length_eq
        rw [selector_eq, List.eq_nil_of_length_eq_zero length_eq]
        rfl
      refine iff_of_true ?_ none
      unfold pickBy
      rw [empty]
      rfl
    · refine iff_of_false ?_ none
      obtain ⟨position, picked, present⟩ :=
        balancer.selector.pickBy_of_positions search draw (some none)
      unfold pickBy
      rw [picked, Option.bind_some, List.getElem?_eq_getElem (within position present)]
      nofun
  · intro draw handle picked
    obtain ⟨position, found, here⟩ := Option.bind_eq_some_iff.mp picked
    have possible : balancer.selector.positions ≠ [] :=
      some (List.ne_nil_of_mem (List.mem_of_getElem? here))
    obtain ⟨own, foundOwn, present⟩ :=
      balancer.selector.pickBy_of_positions search draw possible
    rw [found] at foundOwn
    cases foundOwn
    exact ⟨position, present, here⟩

end

/-- The weights that count at the end of a course: those that the last weighing read, be it the
first one, which made the balancer. -/
def counted (entries : List (WeightedHandle Client)) (weigh : WeightedHandle Client → Float)
    (operations : List (Operation Client)) : List Float :=
  (make entries weigh).lastReadings (entries.map weigh) operations

/-- Whatever became of a balancer since it was made, its selector is that of the weights that count,
it offers handles of its own to every draw unless it has none, and it tells the same of them as any
balancer over these handles for which the same weights count. Other shares or another search would
leave it with handles to offer as well. -/
theorem offers_of_course (entries : List (WeightedHandle Client))
    (weigh : WeightedHandle Client → Float) (operations : List (Operation Client)) :
    let balancer := (make entries weigh).performAll operations
    let readings := counted entries weigh operations
    balancer.handles = entries.map WeightedHandle.handle ∧
      readings.length = entries.length ∧
      balancer.selector = Selector.ofWeights readings ∧
      balancer.Offers balancer.pick ∧
      (∀ sharing search,
        let other := { balancer with selector := .ofWeightsBy sharing readings }
        other.Offers (other.pickBy search)) ∧
      ∀ others weighOthers operationsOthers,
        others.map WeightedHandle.handle = entries.map WeightedHandle.handle →
          counted others weighOthers operationsOthers = readings →
            ((make others weighOthers).performAll operationsOthers).Alike balancer := by
  intro balancer readings
  have sameHandles : balancer.handles = entries.map WeightedHandle.handle :=
    (make entries weigh).handles_performAll operations
  have counts : balancer.Counts readings := (Counts.make entries weigh).performAll operations
  refine ⟨sameHandles, ?_, counts.selector_eq, ?_, ?_, ?_⟩
  · rw [counts.length_eq, sameHandles, List.length_map]
  · have usual : balancer.selector = .ofWeightsBy .usual readings := by
      rw [Selector.ofWeightsBy_usual]
      exact counts.selector_eq
    rw [← funext balancer.pickBy_firstReached]
    exact offers_of_weights .usual _ usual counts.length_eq
  · intro sharing search
    exact offers_of_weights sharing search rfl counts.length_eq
  · intro others weighOthers operationsOthers theirHandles sameReadings
    have theirs := (Counts.make others weighOthers).performAll operationsOthers
    apply alike_of_selector
    · exact ((make others weighOthers).handles_performAll operationsOthers).trans
        (theirHandles.trans sameHandles.symm)
    · rw [theirs.selector_eq, counts.selector_eq]
      exact congrArg Selector.ofWeights sameReadings

def trio (first second third : Float) : List (WeightedHandle Unit) :=
  List.zipWith WeightedHandle.mk (Handle.named 0 ["ab", "c", "ab"]) [first, second, third]

/-- The weight that was set before the weighing counts, the one that was set after it does not, and
a draw picks a handle even if it is no number or far above one. -/
theorem offers_after_reweighing :
    let balancer := (make (trio 1.0 1.0 2.0) WeightedHandle.weight).performAll
      [.setWeight 1 0.0, .rebalance WeightedHandle.weight, .setWeight 0 (0.0 / 0.0)]
    balancer.selector = Selector.ofWeights [1.0, 0.0, 2.0] ∧
      balancer.Offers balancer.pick ∧ balancer.selectable = ["ab", "ab"] ∧
      (balancer.pick (0.0 / 0.0)).map Handle.serial = some 0 ∧
      (balancer.pick 7.0).map Handle.serial = some 2 ∧
      (make (trio 1.0 0.0 2.0) WeightedHandle.weight).Alike balancer := by
  obtain ⟨-, -, counts, offers, -, alike⟩ := offers_of_course (trio 1.0 1.0 2.0)
    WeightedHandle.weight
    [.setWeight 1 0.0, .rebalance WeightedHandle.weight, .setWeight 0 (0.0 / 0.0)]
  exact ⟨counts, offers, by decide, by decide, by decide,
    alike (trio 1.0 0.0 2.0) WeightedHandle.weight [] rfl rfl⟩

end Balancer

end QuorumRouting
