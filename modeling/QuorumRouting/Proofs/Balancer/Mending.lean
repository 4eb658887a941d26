import Mathlib.Data.List.Forall2
import QuorumRouting.Proofs.Balancer.Picking

/-!
Malformed weights. A weight that is no number or below zero can be mended: a zero in its place
leaves every share as it is, whether or not there are infinite weights, negligible ones or too large
ones beside it. So nobody can tell a balancer whose weighers give malformed weights from one whose
weighers give zeros instead.
-/

set_option autoImplicit false

namespace QuorumRouting

namespace Weight

def Malformed (weight : Float) : Prop :=
  weight.isNaN = true ∨ weight < 0.0

/-- A weight, and what may stand in its place. -/
inductive Mends : Float → Float → Prop where
  | kept (weight : Float) : Mends weight weight
  | mended {weight : Float} (malformed : Malformed weight) : Mends weight 0.0

theorem usable_of_malformed {weight : Float} (malformed : Malformed weight) :
    usable weight = 0.0 := by
  unfold usable
  apply if_pos
  rw [Bool.or_eq_true, decide_eq_true_iff]
  exact malformed

namespace Mends

variable {weight other : Float}

theorem isInfinite_eq (mends : Mends weight other) : isInfinite weight = isInfinite other := by
  cases mends with
  | kept => rfl
  | mended malformed => exact ne_infinity_of_malformed malformed

theorem usable_eq (mends : Mends weight other) : usable weight = usable other := by
  cases mends with
  | kept => rfl
  | mended malformed => exact usable_of_malformed malformed

theorem usable (weight : Float) : Mends weight (usable weight) := by
  by_cases malformed : Malformed weight
  · rw [usable_of_malformed malformed]
    exact .mended malformed
  · have sound : Weight.usable weight = weight := by
      unfold Weight.usable
      apply if_neg
      rw [Bool.or_eq_true, decide_eq_true_iff]
      exact malformed
    rw [sound]
    exact .kept weight

end Mends

theorem map_eq_of_mends {Value : Type} {weights others : List Float} {read : Float → Value}
    (mends : List.Forall₂ Mends weights others)
    (unread : ∀ {weight other}, Mends weight other → read weight = read other) :
    weights.map read = others.map read := by
  induction mends with
  | nil => rfl
  | cons head _ ih => rw [List.map_cons, List.map_cons, unread head, ih]

/-- Every branch reads a weight either for its infinity or for what is usable of it. -/
theorem shares_of_mends {weights others : List Float}
    (mends : List.Forall₂ Mends weights others) : shares weights = shares others := by
  have sameCount : weights.countP isInfinite = others.countP isInfinite := by
    have read (some : List Float) : some.countP isInfinite = (some.map isInfinite).countP id := by
      rw [List.countP_map]
      rfl
    rw [read, read, map_eq_of_mends mends Mends.isInfinite_eq]
  unfold shares
  dsimp only
  rw [sameCount, map_eq_of_mends mends Mends.usable_eq, mends.length_eq,
    map_eq_of_mends mends (fun same => by rw [same.isInfinite_eq]),
    map_eq_of_mends mends (fun _ => rfl)]

def distribute {Item : Type} (items : List (Item × Float)) : List (Item × Float) :=
  (items.map Prod.fst).zip (shares (items.map Prod.snd))

theorem distribute_of_mends {Item : Type} {items others : List (Item × Float)}
    (mends : List.Forall₂ (fun item other => item.1 = other.1 ∧ Mends item.2 other.2)
      items others) :
    distribute items = distribute others := by
  have sameItems : items.map Prod.fst = others.map Prod.fst := by
    induction mends with
    | nil => rfl
    | cons head _ ih => rw [List.map_cons, List.map_cons, head.1, ih]
  have mended : List.Forall₂ Mends (items.map Prod.snd) (others.map Prod.snd) := by
    rw [List.forall₂_map_left_iff, List.forall₂_map_right_iff]
    exact mends.imp (fun _ _ both => both.2)
  unfold distribute
  rw [sameItems, shares_of_mends mended]

end Weight

/-- What is shared out the second time are shares already, so only the first time matters. -/
theorem Selector.ofWeights_of_mends {weights others : List Float}
    (mends : List.Forall₂ Weight.Mends weights others) :
    ofWeights weights = ofWeights others := by
  have sameShares := Weight.shares_of_mends mends
  cases mends with
  | nil => rfl
  | cons first rest =>
      cases rest with
      | nil => rfl
      | cons second rest =>
          unfold ofWeights
          dsimp only
          rw [sameShares]

namespace Balancer

variable {Client : Type}

inductive Operation.Mends : Operation Client → Operation Client → Prop where
  | setWeight (position : Nat) (weight : Float) :
      Mends (.setWeight position weight) (.setWeight position weight)
  | rebalance {weigh other : WeightedHandle Client → Float}
      (mends : ∀ entry, Weight.Mends (weigh entry) (other entry)) :
      Mends (.rebalance weigh) (.rebalance other)

theorem forall₂_mends_map {weigh other : WeightedHandle Client → Float}
    (mends : ∀ entry, Weight.Mends (weigh entry) (other entry))
    (entries : List (WeightedHandle Client)) :
    List.Forall₂ Weight.Mends (entries.map weigh) (entries.map other) := by
  rw [List.forall₂_map_left_iff, List.forall₂_map_right_iff, List.forall₂_same]
  exact fun entry _ => mends entry

theorem entries_make (entries : List (WeightedHandle Client))
    (weigh : WeightedHandle Client → Float) : (make entries weigh).entries = entries :=
  rfl

theorem entries_setWeight (balancer : Balancer Client) (position : Nat) (weight : Float) :
    (balancer.perform (.setWeight position weight)).entries =
      balancer.entries.modify position (fun entry => { entry with weight := weight }) := by
  change ((balancer.setWeight? position weight).getD balancer).entries = _
  unfold setWeight?
  split
  · rfl
  · rename_i outside
    rw [List.modify_eq_self (Nat.le_of_not_lt outside)]
    rfl

section

variable {first second : Balancer Client} {readings others : List Float}

theorem Operation.Mends.entries_eq {operation other : Operation Client}
    (mends : operation.Mends other) (sameEntries : first.entries = second.entries) :
    (first.perform operation).entries = (second.perform other).entries := by
  cases mends with
  | setWeight position weight => rw [entries_setWeight, entries_setWeight, sameEntries]
  | rebalance => exact sameEntries

theorem Operation.Mends.readingsAfter {operation other : Operation Client}
    (mends : operation.Mends other) (sameEntries : first.entries = second.entries)
    (mended : List.Forall₂ Weight.Mends readings others) :
    List.Forall₂ Weight.Mends (first.readingsAfter readings operation)
      (second.readingsAfter others other) := by
  cases mends with
  | setWeight => exact mended
  | rebalance weighers =>
      unfold Balancer.readingsAfter
      rw [← sameEntries]
      exact forall₂_mends_map weighers first.entries

theorem forall₂_mends_lastReadings {operations replacements : List (Operation Client)}
    (mends : List.Forall₂ Operation.Mends operations replacements)
    (sameEntries : first.entries = second.entries)
    (mended : List.Forall₂ Weight.Mends readings others) :
    List.Forall₂ Weight.Mends (first.lastReadings readings operations)
      (second.lastReadings others replacements) := by
  induction mends generalizing first second readings others with
  | nil => exact mended
  | cons head _ ih => exact ih (head.entries_eq sameEntries) (head.readingsAfter sameEntries mended)

end

/-- Zeros in the place of malformed weights change nothing: each item keeps the share that it has,
and a balancer keeps its selector, whatever its operations were, and with it all that it tells of
its handles. -/
theorem alike_of_mended (Item : Type) (entries : List (WeightedHandle Client)) :
    (∀ items mended : List (Item × Float),
      List.Forall₂ (fun item other => item.1 = other.1 ∧ Weight.Mends item.2 other.2)
        items mended → Weight.distribute items = Weight.distribute mended) ∧
    ∀ (weigh mended : WeightedHandle Client → Float)
      (operations replacements : List (Operation Client)),
      (∀ entry, Weight.Mends (weigh entry) (mended entry)) →
      List.Forall₂ Operation.Mends operations replacements →
      let balancer := (make entries weigh).performAll operations
      let other := (make entries mended).performAll replacements
      other.selector = balancer.selector ∧ other.Alike balancer := by
  refine ⟨fun items mended => Weight.distribute_of_mends, ?_⟩
  intro weigh mended operations replacements weighers mends balancer other
  have counts : balancer.Counts (counted entries weigh operations) :=
    (Counts.make entries weigh).performAll operations
  have countsMended : other.Counts (counted entries mended replacements) :=
    (Counts.make entries mended).performAll replacements
  have sameEntries : (make entries weigh).entries = (make entries mended).entries :=
    (entries_make entries weigh).trans (entries_make entries mended).symm
  have readings : List.Forall₂ Weight.Mends (counted entries weigh operations)
      (counted entries mended replacements) :=
    forall₂_mends_lastReadings mends sameEntries (forall₂_mends_map weighers entries)
  have sameSelector : other.selector = balancer.selector := by
    rw [countsMended.selector_eq, counts.selector_eq]
    exact (Selector.ofWeights_of_mends readings).symm
  have own : balancer.handles = entries.map WeightedHandle.handle :=
    (make entries weigh).handles_performAll operations
  have others : other.handles = entries.map WeightedHandle.handle :=
    (make entries mended).handles_performAll replacements
  exact ⟨sameSelector, alike_of_selector (others.trans own.symm) sameSelector⟩

/-- Two of three weights are malformed at the second weighing; the third takes everything, also with
zeros in their place. -/
theorem alike_after_malformed :
    let entries := trio (0.0 / 0.0) 1.0 2.0
    let mended : WeightedHandle Unit → Float := fun entry => Weight.usable entry.weight
    let balancer := (make entries WeightedHandle.weight).performAll
      [.setWeight 1 (-1.0 / 0.0), .rebalance WeightedHandle.weight]
    let other := (make entries mended).performAll
      [.setWeight 1 (-1.0 / 0.0), .rebalance mended]
    Weight.distribute [("ab", 0.0 / 0.0), ("c", -1.0 / 0.0), ("ab", 2.0)] =
        Weight.distribute [("ab", 0.0), ("c", 0.0), ("ab", 2.0)] ∧
      other.selector = balancer.selector ∧ other.Alike balancer ∧
      other.kind = .single ∧ other.selectable = ["ab"] := by
  have undefined : Weight.Malformed (0.0 / 0.0) := .inl (by decide)
  have below : Weight.Malformed (-1.0 / 0.0) := .inr (by decide)
  obtain ⟨sameShares, alike⟩ := alike_of_mended String (trio (0.0 / 0.0) 1.0 2.0)
  obtain ⟨sameSelector, same⟩ := alike WeightedHandle.weight
    (fun entry => Weight.usable entry.weight) _ _ (fun entry => .usable entry.weight)
    (.cons (.setWeight 1 (-1.0 / 0.0))
      (.cons (.rebalance (fun entry => .usable entry.weight)) .nil))
  refine ⟨sameShares _ _ ?_, sameSelector, same, by decide, by decide⟩
  exact .cons ⟨rfl, .mended undefined⟩
    (.cons ⟨rfl, .mended below⟩ (.cons ⟨rfl, .kept 2.0⟩ .nil))

end Balancer

end QuorumRouting
