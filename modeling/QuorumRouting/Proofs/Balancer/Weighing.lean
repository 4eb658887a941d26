import QuorumRouting.Balancer.Basic

/-!
Courses of a balancer. Weights are set at any time, and a weighing reads them; between two weighings
the selector stays as it is. So what a balancer tells of its handles follows from the handles
themselves and from the weights that its last weighing read.
-/

set_option autoImplicit false

namespace QuorumRouting.Balancer

variable {Client : Type}

/-! ### Changes of weights -/

theorem handles_setWeight? (balancer : Balancer Client) (position : Nat) (weight : Float)
    {after : Balancer Client} (set : balancer.setWeight? position weight = some after) :
    after.handles = balancer.handles := by
  unfold setWeight? at set
  split at set
  · rw [← Option.some.inj set]
    unfold handles
    apply List.ext_getElem?
    intro other
    rw [List.getElem?_map, List.getElem?_modify, List.getElem?_map]
    cases balancer.entries[other]? with
    | none => rfl
    | some entry =>
        apply congrArg some
        dsimp only
        split
        · rfl
        · rfl
  · cases set

theorem selector_setWeight? (balancer : Balancer Client) (position : Nat) (weight : Float)
    {after : Balancer Client} (set : balancer.setWeight? position weight = some after) :
    after.selector = balancer.selector := by
  unfold setWeight? at set
  split at set
  · rw [← Option.some.inj set]
  · cases set

/-! ### Courses -/

inductive Operation (Client : Type) where
  /-- A handle that stands at several positions has its weight set at each of them. -/
  | setWeight (position : Nat) (weight : Float)
  /-- What a weigher gives can follow from more than the handle, so each weighing has its own. -/
  | rebalance (weigh : WeightedHandle Client → Float)

def perform (balancer : Balancer Client) : Operation Client → Balancer Client
  | .setWeight position weight => (balancer.setWeight? position weight).getD balancer
  | .rebalance weigh => balancer.rebalance weigh

def performAll (balancer : Balancer Client) (operations : List (Operation Client)) :
    Balancer Client :=
  operations.foldl perform balancer

def readingsAfter (balancer : Balancer Client) (readings : List Float) :
    Operation Client → List Float
  | .setWeight _ _ => readings
  | .rebalance weigh => balancer.entries.map weigh

/-- The weights that the last weighing among some operations read, or `readings` if there was
none. -/
def lastReadings (balancer : Balancer Client) (readings : List Float) :
    List (Operation Client) → List Float
  | [] => readings
  | operation :: later =>
      (balancer.perform operation).lastReadings (balancer.readingsAfter readings operation) later

theorem handles_perform (balancer : Balancer Client) (operation : Operation Client) :
    (balancer.perform operation).handles = balancer.handles := by
  cases operation with
  | setWeight position weight =>
      change ((balancer.setWeight? position weight).getD balancer).handles = _
      cases set : balancer.setWeight? position weight with
      | none => rfl
      | some after => exact balancer.handles_setWeight? position weight set
  | rebalance weigh => rfl

theorem handles_performAll (balancer : Balancer Client) (operations : List (Operation Client)) :
    (balancer.performAll operations).handles = balancer.handles := by
  induction operations generalizing balancer with
  | nil => rfl
  | cons operation later ih =>
      exact (ih (balancer.perform operation)).trans (balancer.handles_perform operation)

structure Counts (balancer : Balancer Client) (readings : List Float) : Prop where
  selector_eq : balancer.selector = Selector.ofWeights readings
  length_eq : readings.length = balancer.handles.length

namespace Counts

variable {balancer : Balancer Client} {readings : List Float}

theorem make (entries : List (WeightedHandle Client)) (weigh : WeightedHandle Client → Float) :
    (Balancer.make entries weigh).Counts (entries.map weigh) :=
  ⟨rfl, (List.length_map weigh).trans (List.length_map WeightedHandle.handle).symm⟩

theorem perform (counts : balancer.Counts readings) (operation : Operation Client) :
    (balancer.perform operation).Counts (balancer.readingsAfter readings operation) := by
  have sameHandles := balancer.handles_perform operation
  cases operation with
  | setWeight position weight =>
      refine ⟨?_, counts.length_eq.trans (congrArg List.length sameHandles).symm⟩
      change ((balancer.setWeight? position weight).getD balancer).selector = _
      cases set : balancer.setWeight? position weight with
      | none => exact counts.selector_eq
      | some after =>
          exact (balancer.selector_setWeight? position weight set).trans counts.selector_eq
  | rebalance weigh => exact .make balancer.entries weigh

theorem performAll (counts : balancer.Counts readings) (operations : List (Operation Client)) :
    (balancer.performAll operations).Counts (balancer.lastReadings readings operations) := by
  induction operations generalizing balancer readings with
  | nil => exact counts
  | cons operation later ih => exact ih (counts.perform operation)

end Counts

structure Alike (first second : Balancer Client) : Prop where
  pick_eq : ∀ draw, first.pick draw = second.pick draw
  selectable_eq : first.selectable = second.selectable
  kind_eq : first.kind = second.kind

theorem alike_of_selector {first second : Balancer Client}
    (sameHandles : first.handles = second.handles)
    (sameSelector : first.selector = second.selector) : first.Alike second := by
  constructor
  · intro draw
    unfold pick
    rw [sameHandles, sameSelector]
  · unfold selectable
    rw [sameHandles, sameSelector]
  · unfold kind
    rw [sameSelector]

end QuorumRouting.Balancer
