import QuorumRouting.Health.Record

/-!
Runs of a health record. Outcomes, claims and evaluations come in any order, at any times and
under any policies; a run records each of them with its answer and ends before the first sum of
times that needs more than 64 bits.
-/

set_option autoImplicit false

namespace QuorumRouting.HealthRecord

inductive Operation where
  | success
  | failure
  | testSuccess
  | claimProbe (now : Instant)
  | evaluate (policy : HealthPolicy) (now : Instant)

namespace Operation

/-- Successful test requests are successes as well. -/
def isSuccess : Operation → Bool
  | .success => true
  | .testSuccess => true
  | _ => false

def isFailure : Operation → Bool
  | .failure => true
  | _ => false

def isTestSuccess : Operation → Bool
  | .testSuccess => true
  | _ => false

def time? : Operation → Option Instant
  | .claimProbe now => some now
  | .evaluate _ now => some now
  | _ => none

end Operation

inductive Answer where
  | done
  | granted (granted : Bool)
  | verdict (change : Option Transition)

def perform (record : HealthRecord) : Operation → HealthRecord × Except Overflow Answer
  | .success => (record.recordSuccess, .ok .done)
  | .failure => (record.recordFailure, .ok .done)
  | .testSuccess => (record.recordTestSuccess, .ok .done)
  | .claimProbe now =>
      let (claimed, granted) := record.claimProbe now
      (claimed, granted.map .granted)
  | .evaluate policy now =>
      let (evaluated, verdict) := record.evaluate policy now
      (evaluated, verdict.map .verdict)

private theorem of_map_eq_ok {Given Kept : Type} {result : Except Overflow Given}
    {keep : Given → Kept} {answer : Kept} (kept : result.map keep = .ok answer) :
    ∃ given, result = .ok given ∧ keep given = answer := by
  cases result with
  | error overflow => cases kept
  | ok given => exact ⟨given, rfl, Except.ok.inj kept⟩

theorem granted_of_claimProbe {record : HealthRecord} {now : Instant} {answer : Answer}
    (performed : (record.perform (.claimProbe now)).2 = .ok answer) :
    ∃ granted, .granted granted = answer := by
  obtain ⟨granted, -, answered⟩ := of_map_eq_ok performed
  exact ⟨granted, answered⟩

theorem verdict_of_evaluate {record : HealthRecord} {policy : HealthPolicy} {now : Instant}
    {answer : Answer} (performed : (record.perform (.evaluate policy now)).2 = .ok answer) :
    ∃ verdict, (record.evaluate policy now).2 = .ok verdict ∧ .verdict verdict = answer :=
  of_map_eq_ok performed

inductive Run (first : HealthRecord) : List (Operation × Answer) → HealthRecord → Prop where
  | start : Run first [] first
  | step {events : List (Operation × Answer)} {record : HealthRecord}
      (run : Run first events record) (operation : Operation) (answer : Answer)
      (performed : (record.perform operation).2 = .ok answer) :
      Run first (events ++ [(operation, answer)]) (record.perform operation).1

def verdicts (events : List (Operation × Answer)) : List (Option Transition) :=
  events.filterMap (fun event =>
    match event.2 with
    | .verdict change => some change
    | _ => none)

end QuorumRouting.HealthRecord
