import QuorumRouting.Proofs.Health.Closing

/-!
Claims of test requests. A node is due one while it is excluded and its clock has reached the time
of the next test request. A claim is granted exactly when one is due; it then puts the next one off
by an interval, and otherwise it changes nothing.
-/

set_option autoImplicit false

namespace QuorumRouting.HealthRecord

theorem toNat_of_addMilliseconds {reading interval later : UInt64}
    (fits : addMilliseconds reading interval = .ok later) :
    later.toNat = reading.toNat + interval.toNat := by
  unfold addMilliseconds at fits
  split at fits
  · rename_i below
    cases fits
    rw [UInt64.toNat_add]
    exact Nat.mod_eq_of_lt below
  · cases fits

instance (record : HealthRecord) (now : Instant) : Decidable (record.OutOfTime now) :=
  inferInstanceAs (Decidable (_ ≤ _))

def isDue (record : HealthRecord) (now : Instant) : Bool :=
  !record.inRing && record.nextProbe ≤ record.reading now

def postponed (record : HealthRecord) (now : Instant) : HealthRecord :=
  { record with nextProbe := record.reading now + record.probeInterval }

theorem isDue_iff (record : HealthRecord) (now : Instant) :
    record.isDue now = true ↔
      record.inRing = false ∧ record.nextProbe.toNat ≤ (record.reading now).toNat := by
  unfold isDue
  rw [Bool.and_eq_true, Bool.not_eq_true', decide_eq_true_eq, UInt64.le_iff_toNat_le]

theorem toNat_nextProbe_postponed (record : HealthRecord) (now : Instant)
    (inTime : ¬ record.OutOfTime now) :
    (record.postponed now).nextProbe.toNat =
      (record.reading now).toNat + record.probeInterval.toNat := by
  change (record.reading now + record.probeInterval).toNat = _
  rw [UInt64.toNat_add]
  exact Nat.mod_eq_of_lt (Nat.lt_of_not_le inTime)

theorem claimProbe_of_not_due (record : HealthRecord) (now : Instant)
    (early : record.isDue now = false) : record.claimProbe now = (record, .ok false) := by
  unfold claimProbe
  rw [if_pos]
  cases working : record.inRing with
  | true => exact .inl rfl
  | false =>
      right
      simpa [isDue, working] using early

private theorem not_refused_of_due (record : HealthRecord) (now : Instant)
    (due : record.isDue now = true) :
    ¬ (record.inRing = true ∨ record.reading now < record.nextProbe) := by
  obtain ⟨out, reached⟩ := (record.isDue_iff now).mp due
  rw [out, UInt64.lt_iff_toNat_lt]
  simpa using reached

theorem claimProbe_of_due (record : HealthRecord) (now : Instant) (due : record.isDue now = true)
    (inTime : ¬ record.OutOfTime now) :
    record.claimProbe now = (record.postponed now, .ok true) := by
  unfold claimProbe addMilliseconds
  rw [if_neg (record.not_refused_of_due now due), if_pos (Nat.lt_of_not_le inTime)]
  rfl

theorem claimProbe_of_late (record : HealthRecord) (now : Instant)
    (due : record.isDue now = true) (late : record.OutOfTime now) :
    record.claimProbe now = (record, .error .sum) := by
  unfold claimProbe addMilliseconds
  rw [if_neg (record.not_refused_of_due now due), if_neg (Nat.not_lt.mpr late)]

/-- All that a claim can do, but for an overflow. -/
theorem claimProbe_eq_ok {record : HealthRecord} {now : Instant} {granted : Bool}
    (claimed : (record.claimProbe now).2 = .ok granted) :
    granted = record.isDue now ∧
      (record.claimProbe now).1 = (if granted then record.postponed now else record) ∧
      (granted = true → ¬ record.OutOfTime now) := by
  cases due : record.isDue now with
  | false =>
      rw [claimProbe_of_not_due record now due] at claimed ⊢
      cases claimed
      exact ⟨rfl, rfl, nofun⟩
  | true =>
      by_cases late : record.OutOfTime now
      · rw [claimProbe_of_late record now due late] at claimed
        cases claimed
      · rw [claimProbe_of_due record now due late] at claimed ⊢
        cases claimed
        exact ⟨rfl, rfl, fun _ => late⟩

end QuorumRouting.HealthRecord
