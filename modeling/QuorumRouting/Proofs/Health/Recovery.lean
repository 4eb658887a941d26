import QuorumRouting.Health.Registry
import QuorumRouting.Proofs.Health.Closing

/-!
The mark of a recovery. A record is marked by the success of a test request while its node is
excluded and by nothing else, the next evaluation takes the mark away again, and it restores exactly
the nodes that had it.
-/

set_option autoImplicit false

namespace QuorumRouting

namespace HealthRecord

/-- A record is out of the ring after a window that excluded it, or one it was out of before. -/
theorem out_of_closing {record after : HealthRecord} {policy : HealthPolicy} {now : Instant}
    {verdict : Option Transition} (closing : record.Closing policy now after verdict)
    (out : after.inRing = false) :
    (∃ ratio, verdict = some (.excluded ratio)) ∨
      record.inRing = false ∧ record.recovered = false := by
  cases closing with
  | restored before tested => cases out
  | waiting before untested => exact .inr ⟨before, untested⟩
  | idle working quiet => exact absurd (working.symm.trans out) nofun
  | tripped working busy breach due fits => exact .inl ⟨_, rfl⟩
  | sound working busy within => exact absurd (working.symm.trans out) nofun

theorem recovered_of_closing {record after : HealthRecord} {policy : HealthPolicy} {now : Instant}
    {verdict : Option Transition} (closing : record.Closing policy now after verdict)
    (mark : record.recovered = true → record.inRing = false) : after.recovered = false := by
  have unmarked (working : record.inRing = true) : record.recovered = false := by
    rw [← Bool.not_eq_true]
    intro recovered
    rw [mark recovered] at working
    cases working
  cases closing with
  | restored out tested => rfl
  | waiting out untested => exact untested
  | idle working quiet => exact unmarked working
  | tripped working busy breach due fits => rfl
  | sound working busy within => exact unmarked working

theorem recovered_of_closing_restored {record after : HealthRecord} {policy : HealthPolicy}
    {now : Instant} (closing : record.Closing policy now after (some .restored)) :
    record.recovered = true := by
  cases closing with
  | restored out tested => exact tested

theorem inRing_or_recovered_of_closing {record after : HealthRecord} {policy : HealthPolicy}
    {now : Instant} {transition : Transition}
    (closing : record.Closing policy now after (some transition)) :
    record.inRing = true ∨ record.recovered = true := by
  cases closing with
  | restored out tested => exact .inr tested
  | tripped working busy breach due fits => exact .inl working

end HealthRecord

namespace HealthRegistry

/-- Only the success of a test request to an excluded node counts as its recovery. -/
theorem recovered_effect {testRequest : Bool} {recorded : Recorded} {record : HealthRecord}
    (recovered : (effect testRequest recorded record).recovered = true) :
    record.recovered = true ∨
      record.inRing = false ∧ testRequest = true ∧ recorded = .success := by
  have succeeded : record.recordSuccess.recovered = record.recovered := by
    unfold HealthRecord.recordSuccess HealthRecord.recordSuccesses
    split
    · rfl
    · rfl
  have failed : record.recordFailure.recovered = record.recovered := by
    unfold HealthRecord.recordFailure HealthRecord.recordFailures
    split
    · rfl
    · rfl
  cases recorded with
  | ignored => exact .inl recovered
  | failure => exact .inl (failed ▸ recovered)
  | success =>
      cases testRequest with
      | false => exact .inl (succeeded ▸ recovered)
      | true =>
          change record.recordTestSuccess.recovered = true at recovered
          unfold HealthRecord.recordTestSuccess at recovered
          cases working : record.inRing with
          | true =>
              rw [working, if_pos rfl, succeeded] at recovered
              exact .inl recovered
          | false => exact .inr ⟨rfl, rfl, rfl⟩

theorem error_eq_none_of_classify {registry : HealthRegistry} {error : Option CallError}
    (success : registry.classify error = .success) : error = none := by
  cases error with
  | none => rfl
  | some error =>
      unfold classify at success
      dsimp only at success
      split at success
      · cases success
      · cases success

end HealthRegistry

end QuorumRouting
