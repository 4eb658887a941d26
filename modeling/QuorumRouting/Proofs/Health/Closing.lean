import QuorumRouting.Health.Record

/-!
What a step does to the health of one node. Outcomes and claims never move a node in or out of the
ring; the end of a window can, and `Closing` lists the five ways in which a window ends.
-/

set_option autoImplicit false

namespace QuorumRouting.HealthRecord

@[simp]
theorem inRing_recordSuccess (record : HealthRecord) :
    record.recordSuccess.inRing = record.inRing := by
  unfold recordSuccess recordSuccesses
  split
  · rfl
  · rfl

theorem inRing_recordFailures (record : HealthRecord) (count : Nat) :
    (record.recordFailures count).inRing = record.inRing := by
  unfold recordFailures
  split
  · rfl
  · rfl

@[simp]
theorem inRing_recordFailure (record : HealthRecord) :
    record.recordFailure.inRing = record.inRing :=
  record.inRing_recordFailures 1

@[simp]
theorem inRing_recordTestSuccess (record : HealthRecord) :
    record.recordTestSuccess.inRing = record.inRing := by
  unfold recordTestSuccess
  split
  · exact inRing_recordSuccess record
  · rfl

/-- A claim changes at most the time from which on the next test request is due. -/
theorem claimProbe_fst (record : HealthRecord) (now : Instant) :
    ∃ due, (record.claimProbe now).1 = { record with nextProbe := due } := by
  unfold claimProbe
  split
  · exact ⟨record.nextProbe, rfl⟩
  · split
    · exact ⟨record.nextProbe, rfl⟩
    · rename_i due _
      exact ⟨due, rfl⟩

@[simp]
theorem inRing_claimProbe (record : HealthRecord) (now : Instant) :
    (record.claimProbe now).1.inRing = record.inRing := by
  obtain ⟨due, claimed⟩ := record.claimProbe_fst now
  rw [claimed]

def calls (record : HealthRecord) : Nat :=
  record.successes.toNat + record.failures.toNat

/-- How a window ends: the record that starts the next one, and the change of state. -/
inductive Closing (record : HealthRecord) (policy : HealthPolicy) (now : Instant) :
    HealthRecord → Option Transition → Prop where
  | restored (out : record.inRing = false) (tested : record.recovered = true) :
      Closing record policy now
        { record.cleared with recovered := false, failureRatio := 0.0, inRing := true }
        (some .restored)
  | waiting (out : record.inRing = false) (untested : record.recovered = false) :
      Closing record policy now record.cleared none
  | idle (working : record.inRing = true) (quiet : record.calls = 0) :
      Closing record policy now record.cleared none
  | tripped (working : record.inRing = true) (busy : record.calls ≠ 0)
      (breach : record.breaches policy = true) (due : UInt64)
      (fits : addMilliseconds (record.reading now) record.probeInterval = .ok due) :
      Closing record policy now
        { record.cleared with
          failureRatio := record.windowRatio, recovered := false, nextProbe := due,
          inRing := false }
        (some (.excluded record.windowRatio))
  | sound (working : record.inRing = true) (busy : record.calls ≠ 0)
      (within : record.breaches policy = false) :
      Closing record policy now { record.cleared with failureRatio := record.windowRatio } none

theorem closing_of_evaluate {record after : HealthRecord} {policy : HealthPolicy} {now : Instant}
    {verdict : Option Transition} (evaluated : record.evaluate policy now = (after, .ok verdict)) :
    record.Closing policy now after verdict := by
  unfold evaluate at evaluated
  split at evaluated
  · rename_i out
    split at evaluated
    · rename_i tested
      cases evaluated
      exact .restored (by simpa using out) tested
    · rename_i untested
      cases evaluated
      exact .waiting (by simpa using out) (by simpa using untested)
  · rename_i working
    have inside : record.inRing = true := by simpa using working
    split at evaluated
    · rename_i quiet
      cases evaluated
      exact .idle inside quiet
    · rename_i busy
      dsimp only at evaluated
      split at evaluated
      · rename_i breach
        unfold exclude at evaluated
        split at evaluated
        · cases evaluated
        · rename_i due fits
          cases evaluated
          exact .tripped inside busy breach due fits
      · rename_i within
        cases evaluated
        exact .sound inside busy (by simpa using within)

/-- Only a change of state moves a node in or out of the ring. -/
theorem inRing_of_closing_none {record after : HealthRecord} {policy : HealthPolicy}
    {now : Instant} (closing : record.Closing policy now after none) :
    after.inRing = record.inRing := by
  cases closing with
  | waiting out untested => rfl
  | idle working quiet => rfl
  | sound working busy within => rfl

/-- Does the time of a test request one interval from now need more than 64 bits? -/
def OutOfTime (record : HealthRecord) (now : Instant) : Prop :=
  UInt64.size ≤ (record.reading now).toNat + record.probeInterval.toNat

theorem outOfTime_of_error {record : HealthRecord} {now : Instant} {overflow : Overflow}
    (broken : addMilliseconds (record.reading now) record.probeInterval = .error overflow) :
    overflow = .sum ∧ record.OutOfTime now := by
  unfold addMilliseconds at broken
  split at broken
  · cases broken
  · rename_i tooLate
    exact ⟨(Except.error.inj broken).symm, Nat.le_of_not_lt tooLate⟩

theorem claimProbe_error {record : HealthRecord} {now : Instant} {overflow : Overflow}
    (broken : (record.claimProbe now).2 = .error overflow) :
    overflow = .sum ∧ record.OutOfTime now := by
  unfold claimProbe at broken
  split at broken
  · cases broken
  · split at broken
    · rename_i cause sum
      cases broken
      exact outOfTime_of_error sum
    · cases broken

theorem evaluate_error {record : HealthRecord} {policy : HealthPolicy} {now : Instant}
    {overflow : Overflow} (broken : (record.evaluate policy now).2 = .error overflow) :
    overflow = .sum ∧ record.OutOfTime now := by
  unfold evaluate at broken
  split at broken
  · split at broken
    · cases broken
    · cases broken
  · split at broken
    · cases broken
    · dsimp only at broken
      split at broken
      · unfold exclude at broken
        split at broken
        · rename_i cause sum
          cases broken
          exact outOfTime_of_error sum
        · cases broken
      · cases broken

end QuorumRouting.HealthRecord
