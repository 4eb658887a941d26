import QuorumRouting.Proofs.Doubles
import QuorumRouting.Proofs.Health.Closing
import QuorumRouting.Health.Registry

/-!
Nodes whose calls never fail. The failure ratio of such a node is a quotient of zero: zero itself,
or no number when no call was counted. Neither is above a positive threshold, so no evaluation
excludes the node, whatever the other settings are and however often its counter wraps round.
-/

set_option autoImplicit false

namespace QuorumRouting

theorem not_lt_zero_div {threshold : Float} (positive : 0.0 < threshold) (divisor : Float) :
    ¬ threshold < Float.ofNat 0 / divisor := by
  have zero : Vanishing (Float.ofNat 0) := .inr ⟨.positive, rfl⟩
  exact not_lt_of_vanishing (unsigned_of_pos positive) (zero.div divisor)

namespace HealthRecord

structure Faultless (record : HealthRecord) : Prop where
  working : record.inRing = true
  unfailed : record.failures = 0

namespace Faultless

variable {record : HealthRecord}

theorem not_breaches (faultless : record.Faultless) {policy : HealthPolicy}
    (positive : 0.0 < policy.failureRatioThreshold) : record.breaches policy = false := by
  unfold breaches windowRatio
  rw [faultless.unfailed, Bool.and_eq_false_iff]
  right
  exact decide_eq_false (not_lt_zero_div positive _)

theorem effect_success (faultless : record.Faultless) (testRequest : Bool) :
    (HealthRegistry.effect testRequest .success record).Faultless := by
  have succeeded : record.recordSuccess.Faultless := by
    unfold recordSuccess recordSuccesses
    rw [if_pos faultless.working]
    exact ⟨faultless.working, faultless.unfailed⟩
  cases testRequest with
  | false => exact succeeded
  | true =>
      change record.recordTestSuccess.Faultless
      unfold recordTestSuccess
      rw [if_pos faultless.working]
      exact succeeded

theorem closing (faultless : record.Faultless) {policy : HealthPolicy} {now : Instant}
    {after : HealthRecord} {verdict : Option Transition}
    (positive : 0.0 < policy.failureRatioThreshold)
    (closing : record.Closing policy now after verdict) : after.Faultless := by
  have working := faultless.working
  cases closing with
  | restored out tested => rw [working] at out; cases out
  | waiting out untested => rw [working] at out; cases out
  | idle working quiet => exact ⟨working, rfl⟩
  | tripped working busy breach due fits =>
      rw [faultless.not_breaches positive] at breach
      cases breach
  | sound working busy within => exact ⟨working, rfl⟩

end Faultless

end HealthRecord

end QuorumRouting
