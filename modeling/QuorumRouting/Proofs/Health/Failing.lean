import Mathlib.Data.List.Induction
import QuorumRouting.Proofs.Health.Chronicle
import QuorumRouting.Proofs.Wholes

/-!
Windows of failures. Where no call succeeds, the failure ratio is one exactly, above every threshold
that is below one. But the counter of failures wraps round, so a window is judged by what is left of
its failures in the counter. If that is enough, the node is excluded; but nothing is left of a
multiple of the counter's size, and then the node stays.
-/

set_option autoImplicit false

namespace QuorumRouting.HealthRecord

inductive Operation.IsBarren : Operation → Prop where
  | failure : IsBarren .failure
  | claimProbe (now : Instant) : IsBarren (.claimProbe now)

structure Opening (record : HealthRecord) : Prop where
  working : record.inRing = true
  successes_eq : record.successes = 0
  failures_eq : record.failures = 0

def countedFailures (operations : List Operation) : Nat :=
  operations.countP Operation.isFailure % UInt32.size

theorem recordFailures_zero (record : HealthRecord) : record.recordFailures 0 = record := by
  unfold recordFailures
  split
  · change { record with failures := record.failures + 0 } = record
    rw [UInt32.add_zero]
  · rfl

theorem recordFailures_recordFailures (record : HealthRecord) (count more : Nat) :
    (record.recordFailures count).recordFailures more = record.recordFailures (count + more) := by
  unfold recordFailures
  by_cases working : record.inRing = true
  · rw [if_pos working, if_pos working, if_pos working, UInt32.ofNat_add, UInt32.add_assoc]
  · rw [if_neg working, if_neg working, if_neg working]

theorem claimProbe_of_working {record : HealthRecord} (working : record.inRing = true)
    (now : Instant) : record.claimProbe now = (record, .ok false) := by
  unfold claimProbe
  exact if_pos (.inl working)

section

variable {first : HealthRecord}

/-- Nothing but failures leaves a trace in a window without success. -/
theorem perform_of_barren {operation : Operation} (barren : operation.IsBarren)
    (working : first.inRing = true) (count : Nat) :
    ((first.recordFailures count).perform operation).1 =
        first.recordFailures (count + if operation.isFailure then 1 else 0) ∧
      ∃ answer, ((first.recordFailures count).perform operation).2 = .ok answer := by
  cases barren with
  | failure => exact ⟨first.recordFailures_recordFailures count 1, .done, rfl⟩
  | claimProbe now =>
      have claimed := claimProbe_of_working
        ((first.inRing_recordFailures count).trans working) now
      unfold perform
      dsimp only
      rw [claimed]
      exact ⟨rfl, .granted false, rfl⟩

theorem record_of_barren {events : List (Operation × Answer)} {record : HealthRecord}
    (run : Run first events record) (working : first.inRing = true)
    (barren : ∀ operation, operation ∈ events.map Prod.fst → operation.IsBarren) :
    record = first.recordFailures ((events.map Prod.fst).countP Operation.isFailure) := by
  induction run with
  | start => exact first.recordFailures_zero.symm
  | @step events record run operation answer performed ih =>
      rw [List.map_append, List.map_cons, List.map_nil] at barren ⊢
      have before := ih (fun earlier present => barren earlier (List.mem_append_left _ present))
      have last := barren operation (List.mem_append_right _ List.mem_cons_self)
      rw [List.countP_append, List.countP_singleton, before]
      exact (perform_of_barren last working _).1

theorem run_of_barren (working : first.inRing = true) (operations : List Operation)
    (barren : ∀ operation, operation ∈ operations → operation.IsBarren) :
    ∃ events record, Run first events record ∧ events.map Prod.fst = operations := by
  induction operations using List.reverseRecOn with
  | nil => exact ⟨[], first, .start, rfl⟩
  | append_singleton earlier operation ih =>
      obtain ⟨events, record, run, performed⟩ :=
        ih (fun other present => barren other (List.mem_append_left _ present))
      subst performed
      have before := record_of_barren run working
        (fun other present => barren other (List.mem_append_left _ present))
      have last := barren operation (List.mem_append_right _ List.mem_cons_self)
      obtain ⟨-, answer, answered⟩ := perform_of_barren last working
        ((events.map Prod.fst).countP Operation.isFailure)
      rw [← before] at answered
      refine ⟨events ++ [(operation, answer)], _, run.step operation answer answered, ?_⟩
      rw [List.map_append]
      rfl

end

namespace Opening

variable {first : HealthRecord} (opening : first.Opening) (count : Nat)

include opening

theorem failures_recordFailures :
    (first.recordFailures count).failures.toNat = count % UInt32.size := by
  unfold recordFailures
  rw [if_pos opening.working, opening.failures_eq]
  dsimp only
  rw [UInt32.zero_add]
  rfl

theorem calls_recordFailures :
    (first.recordFailures count).successes.toNat + (first.recordFailures count).failures.toNat =
      count % UInt32.size := by
  have none : (first.recordFailures count).successes = 0 := by
    unfold recordFailures
    rw [if_pos opening.working]
    exact opening.successes_eq
  rw [opening.failures_recordFailures, none]
  exact Nat.zero_add _

theorem cleared_recordFailures : (first.recordFailures count).cleared = first := by
  have closed : first.cleared = first := by
    obtain ⟨-, noSuccess, noFailure⟩ := opening
    cases first
    cases noSuccess
    cases noFailure
    rfl
  unfold recordFailures
  rw [if_pos opening.working]
  exact closed

/-- Where every counted call failed, the ratio is one without any rounding. -/
theorem windowRatio_recordFailures (positive : 0 < count % UInt32.size) :
    (first.recordFailures count).windowRatio = 1.0 := by
  unfold windowRatio
  rw [opening.calls_recordFailures, opening.failures_recordFailures]
  apply ofNat_div_self positive
  exact Nat.lt_trans (Nat.mod_lt _ (by decide)) (by decide)

theorem breaches_recordFailures {policy : HealthPolicy}
    (below : policy.failureRatioThreshold < 1.0) (positive : 0 < count % UInt32.size) :
    (first.recordFailures count).breaches policy =
      decide (policy.minRequests.toNat ≤ count % UInt32.size) := by
  unfold breaches
  rw [opening.windowRatio_recordFailures count positive, opening.calls_recordFailures,
    decide_eq_true below, Bool.and_true]

end Opening

/-- The verdict on a window of failures, by what is left of their number in the counter, and the
record that starts the next window. -/
inductive FailingVerdict (first : HealthRecord) (policy : HealthPolicy) (now : Instant)
    (counted : Nat) : HealthRecord → Except Overflow (Option Transition) → Prop where
  | unseen (zero : counted = 0) : FailingVerdict first policy now counted first (.ok none)
  | few (positive : 0 < counted) (few : counted < policy.minRequests.toNat) :
      FailingVerdict first policy now counted { first with failureRatio := 1.0 } (.ok none)
  | excluded (enough : max 1 policy.minRequests.toNat ≤ counted) (due : UInt64)
      (fits : addMilliseconds (first.reading now) first.probeInterval = .ok due) :
      FailingVerdict first policy now counted
        { first with failureRatio := 1.0, recovered := false, nextProbe := due, inRing := false }
        (.ok (some (.excluded 1.0)))
  | outOfTime (enough : max 1 policy.minRequests.toNat ≤ counted) (late : first.OutOfTime now) :
      FailingVerdict first policy now counted
        { first with failureRatio := 1.0, recovered := false } (.error .sum)

theorem Opening.evaluate_recordFailures {first : HealthRecord} (opening : first.Opening)
    {policy : HealthPolicy} (below : policy.failureRatioThreshold < 1.0) (count : Nat)
    (now : Instant) :
    FailingVerdict first policy now (count % UInt32.size)
      ((first.recordFailures count).evaluate policy now).1
      ((first.recordFailures count).evaluate policy now).2 := by
  have working : ¬ ¬ (first.recordFailures count).inRing = true :=
    not_not_intro ((first.inRing_recordFailures count).trans opening.working)
  unfold evaluate
  rw [if_neg working, opening.calls_recordFailures, opening.cleared_recordFailures]
  by_cases zero : count % UInt32.size = 0
  · rw [if_pos zero]
    exact .unseen zero
  · have positive : 0 < count % UInt32.size := Nat.pos_of_ne_zero zero
    rw [if_neg zero, opening.windowRatio_recordFailures count positive,
      opening.breaches_recordFailures count below positive]
    dsimp only
    by_cases enough : policy.minRequests.toNat ≤ count % UInt32.size
    · rw [if_pos (decide_eq_true enough)]
      have both : max 1 policy.minRequests.toNat ≤ count % UInt32.size :=
        Nat.max_le.mpr ⟨positive, enough⟩
      unfold exclude
      dsimp only
      split
      · rename_i overflow broken
        obtain ⟨rfl, late⟩ := outOfTime_of_error broken
        exact .outOfTime both late
      · rename_i due fits
        exact .excluded both due fits
    · rw [if_neg (by rw [decide_eq_false enough]; nofun)]
      exact .few positive (Nat.lt_of_not_le enough)

/-- A window without success is judged by what is left of its failures in the counter: fewer than
the counter has room for are all judged, and then enough of them exclude the node with a ratio of
one; of more failures, multiples of its size are forgotten. -/
theorem failing_window_judged {first : HealthRecord} (opening : first.Opening)
    {policy : HealthPolicy} (below : policy.failureRatioThreshold < 1.0)
    (operations : List Operation)
    (barren : ∀ operation, operation ∈ operations → operation.IsBarren) :
    (∃ events record, Run first events record ∧ events.map Prod.fst = operations) ∧
    (operations.countP Operation.isFailure < UInt32.size →
      countedFailures operations = operations.countP Operation.isFailure) ∧
    ∀ events record, Run first events record → events.map Prod.fst = operations → ∀ now,
      FailingVerdict first policy now (countedFailures operations)
        (record.evaluate policy now).1 (record.evaluate policy now).2 := by
  refine ⟨run_of_barren opening.working operations barren, Nat.mod_eq_of_lt, ?_⟩
  intro events record run performed now
  subst performed
  rw [record_of_barren run opening.working barren]
  exact opening.evaluate_recordFailures below _ now

theorem opening_fresh (probeInterval : Nat) (created : Instant) :
    (fresh probeInterval created).Opening :=
  ⟨rfl, rfl, rfl⟩

/-- One more failure than the counter has room for excludes a node of which nothing else is known,
with a test request between the failures and the verdict. -/
theorem failing_window_past_counter :
    let operations := List.replicate (UInt32.size + 1) Operation.failure ++ [.claimProbe 7]
    countedFailures operations = 1 ∧
      ∃ events record, Run (fresh 100 0) events record ∧ events.map Prod.fst = operations ∧
        FailingVerdict (fresh 100 0) strict 9 1 (record.evaluate strict 9).1
          (record.evaluate strict 9).2 := by
  intro operations
  have below : strict.failureRatioThreshold < 1.0 := by decide
  have counted : countedFailures operations = 1 := by
    unfold countedFailures
    rw [List.countP_append, List.countP_replicate]
    rfl
  have barren (operation : Operation) (present : operation ∈ operations) : operation.IsBarren := by
    rcases List.mem_append.mp present with failed | claimed
    · rw [List.eq_of_mem_replicate failed]
      exact .failure
    · rw [List.mem_singleton.mp claimed]
      exact .claimProbe 7
  obtain ⟨⟨events, record, run, performed⟩, -, judged⟩ :=
    failing_window_judged (opening_fresh 100 0) below operations barren
  have verdict := judged events record run performed 9
  rw [counted] at verdict
  exact ⟨counted, events, record, run, performed, verdict⟩

/-- As many failures as the counter has states leave no trace in it: under a policy that excludes a
node for one failure, the node stays. -/
theorem failures_overlooked :
    ∃ events record, Run (fresh 100 0) events record ∧
      events.map Prod.fst = List.replicate UInt32.size .failure ∧
      0.0 < strict.failureRatioThreshold ∧ strict.failureRatioThreshold < 1.0 ∧
      max 1 strict.minRequests.toNat ≤ UInt32.size ∧
      record.evaluate strict 9 = (fresh 100 0, .ok none) := by
  have barren (operation : Operation)
      (present : operation ∈ List.replicate UInt32.size Operation.failure) :
      operation.IsBarren := by
    rw [List.eq_of_mem_replicate present]
    exact .failure
  obtain ⟨events, record, run, performed⟩ :=
    run_of_barren (opening_fresh 100 0).working _ barren
  have unchanged : record = (fresh 100 0).recordFailures UInt32.size := by
    rw [← performed] at barren
    rw [record_of_barren run rfl barren, performed, List.countP_replicate]
    rfl
  refine ⟨events, record, run, performed, by decide, by decide, by decide, ?_⟩
  rw [unchanged]
  rfl

end QuorumRouting.HealthRecord
