import QuorumRouting.Proofs.Health.Closing
import QuorumRouting.Proofs.Health.Run

/-!
What the history of a node says of its health. A chronicle keeps the operations of the present
window themselves, in place of counters and flags, and judges them when the window is closed. A
record agrees with its chronicle after every run: on the state of the node, on the failure ratio
and on every verdict.
-/

set_option autoImplicit false

namespace QuorumRouting

structure Chronicle where
  working : Bool
  ratio : Float
  /-- What was done since the last evaluation, or since the start. -/
  window : List HealthRecord.Operation
  verdicts : List (Option Transition)

namespace Chronicle

open HealthRecord (Operation)

def successes (chronicle : Chronicle) : Nat :=
  chronicle.window.countP Operation.isSuccess

def failures (chronicle : Chronicle) : Nat :=
  chronicle.window.countP Operation.isFailure

def tested (chronicle : Chronicle) : Bool :=
  chronicle.window.any Operation.isTestSuccess

def calls (chronicle : Chronicle) : Nat :=
  chronicle.successes + chronicle.failures

def windowRatio (chronicle : Chronicle) : Float :=
  Float.ofNat chronicle.failures / Float.ofNat chronicle.calls

/-- A working node is excluded when its window has calls, as many as the policy asks for, and too
large a part of them failed; an excluded node is restored when a test request succeeded. -/
def verdict (chronicle : Chronicle) (policy : HealthPolicy) : Option Transition :=
  if chronicle.working then
    if chronicle.calls = 0 then none
    else if policy.minRequests.toNat ≤ chronicle.calls ∧
        policy.failureRatioThreshold < chronicle.windowRatio then
      some (.excluded chronicle.windowRatio)
    else none
  else if chronicle.tested then some .restored
  else none

/-- The failure ratio after the window: of a working node that had calls it is the window's, of a
restored node zero, and otherwise it stays. -/
def nextRatio (chronicle : Chronicle) : Float :=
  if chronicle.working then
    if chronicle.calls = 0 then chronicle.ratio else chronicle.windowRatio
  else if chronicle.tested then 0.0
  else chronicle.ratio

def staysIn (chronicle : Chronicle) : Option Transition → Bool
  | some (.excluded _) => false
  | some .restored => true
  | none => chronicle.working

def close (chronicle : Chronicle) (policy : HealthPolicy) : Chronicle :=
  { working := chronicle.staysIn (chronicle.verdict policy)
    ratio := chronicle.nextRatio
    window := []
    verdicts := chronicle.verdicts ++ [chronicle.verdict policy] }

def push (chronicle : Chronicle) (operation : Operation) : Chronicle :=
  { chronicle with window := chronicle.window ++ [operation] }

def extend (chronicle : Chronicle) : Operation → Chronicle
  | .evaluate policy _ => chronicle.close policy
  | operation => chronicle.push operation

def start : Chronicle :=
  { working := true, ratio := 0.0, window := [], verdicts := [] }

def ofOperations (operations : List Operation) : Chronicle :=
  operations.foldl extend start

theorem ofOperations_append (operations : List Operation) (operation : Operation) :
    ofOperations (operations ++ [operation]) = (ofOperations operations).extend operation := by
  unfold ofOperations
  rw [List.foldl_append, List.foldl_cons, List.foldl_nil]

def Countable (chronicle : Chronicle) : Prop :=
  chronicle.successes < UInt32.size ∧ chronicle.failures < UInt32.size

theorem length_window_extend (chronicle : Chronicle) (operation : Operation) :
    (chronicle.extend operation).window.length ≤ chronicle.window.length + 1 := by
  cases operation with
  | evaluate policy now => exact Nat.zero_le _
  | success | failure | testSuccess | claimProbe now =>
      exact Nat.le_of_eq List.length_append

private theorem length_window_foldl (operations : List Operation) (chronicle : Chronicle) :
    (operations.foldl extend chronicle).window.length ≤
      chronicle.window.length + operations.length := by
  induction operations generalizing chronicle with
  | nil => exact Nat.le_refl _
  | cons operation rest ih =>
      have whole := ih (chronicle.extend operation)
      have one := chronicle.length_window_extend operation
      rw [List.foldl_cons, List.length_cons]
      omega

theorem countable_of_prefix {operations : List Operation}
    (short : operations.length < UInt32.size) :
    ∀ earlier, earlier <+: operations → (ofOperations earlier).Countable := by
  intro earlier part
  have window := length_window_foldl earlier start
  rw [show start.window.length = 0 from rfl, Nat.zero_add] at window
  have fewer : (ofOperations earlier).window.length < UInt32.size :=
    Nat.lt_of_le_of_lt (Nat.le_trans window part.length_le) short
  exact ⟨Nat.lt_of_le_of_lt List.countP_le_length fewer,
    Nat.lt_of_le_of_lt List.countP_le_length fewer⟩

theorem successes_push (chronicle : Chronicle) (operation : Operation) :
    (chronicle.push operation).successes =
      chronicle.successes + if operation.isSuccess then 1 else 0 := by
  unfold successes push
  rw [List.countP_append, List.countP_singleton]

theorem failures_push (chronicle : Chronicle) (operation : Operation) :
    (chronicle.push operation).failures =
      chronicle.failures + if operation.isFailure then 1 else 0 := by
  unfold failures push
  rw [List.countP_append, List.countP_singleton]

theorem tested_push (chronicle : Chronicle) (operation : Operation) :
    (chronicle.push operation).tested = (chronicle.tested || operation.isTestSuccess) := by
  unfold tested push
  rw [List.any_append, List.any_cons, List.any_nil, Bool.or_false]

end Chronicle

namespace HealthRecord

/-- Outcomes are counted for working nodes only, and a successful test request is kept in mind for
excluded nodes only. -/
structure Represents (record : HealthRecord) (chronicle : Chronicle) : Prop where
  inRing_eq : record.inRing = chronicle.working
  ratio_eq : record.failureRatio = chronicle.ratio
  successes_eq : record.successes =
    if chronicle.working then UInt32.ofNat chronicle.successes else 0
  failures_eq : record.failures =
    if chronicle.working then UInt32.ofNat chronicle.failures else 0
  recovered_eq : record.recovered = (!chronicle.working && chronicle.tested)

theorem represents_fresh (probeInterval : Nat) (created : Instant) :
    (fresh probeInterval created).Represents .start :=
  { inRing_eq := rfl
    ratio_eq := rfl
    successes_eq := rfl
    failures_eq := rfl
    recovered_eq := rfl }

structure Notes (record : HealthRecord) (operation : Operation) (after : HealthRecord) : Prop where
  inRing_eq : after.inRing = record.inRing
  ratio_eq : after.failureRatio = record.failureRatio
  successes_eq : after.successes = record.successes +
    UInt32.ofNat (if record.inRing && operation.isSuccess then 1 else 0)
  failures_eq : after.failures = record.failures +
    UInt32.ofNat (if record.inRing && operation.isFailure then 1 else 0)
  recovered_eq : after.recovered =
    (record.recovered || (!record.inRing && operation.isTestSuccess))

theorem notes_perform (record : HealthRecord) (operation : Operation)
    (within : ∀ policy now, operation ≠ .evaluate policy now) :
    record.Notes operation (record.perform operation).1 := by
  cases operation with
  | success =>
      unfold perform recordSuccess recordSuccesses
      cases working : record.inRing with
      | false => constructor <;> simp [working, Operation.isTestSuccess]
      | true => constructor <;> simp [working, Operation.isSuccess, Operation.isFailure]
  | failure =>
      unfold perform recordFailure recordFailures
      cases working : record.inRing with
      | false => constructor <;> simp [working, Operation.isTestSuccess]
      | true => constructor <;> simp [working, Operation.isSuccess, Operation.isFailure]
  | testSuccess =>
      unfold perform recordTestSuccess recordSuccess recordSuccesses
      cases working : record.inRing with
      | false => constructor <;> simp [working, Operation.isTestSuccess]
      | true => constructor <;> simp [working, Operation.isSuccess, Operation.isFailure]
  | claimProbe now =>
      obtain ⟨due, claimed⟩ := record.claimProbe_fst now
      change record.Notes (.claimProbe now) (record.claimProbe now).1
      rw [claimed]
      constructor <;>
        simp [Operation.isSuccess, Operation.isFailure, Operation.isTestSuccess]
  | evaluate policy now => exact absurd rfl (within policy now)

section Steps

variable {record after : HealthRecord} {chronicle : Chronicle}

theorem Represents.push (represents : record.Represents chronicle) (operation : Operation)
    (notes : record.Notes operation after) : after.Represents (chronicle.push operation) := by
  have sameRing := notes.inRing_eq.trans represents.inRing_eq
  have sameRatio := notes.ratio_eq.trans represents.ratio_eq
  have counted := notes.successes_eq
  have failed := notes.failures_eq
  have remembered := notes.recovered_eq
  rw [represents.successes_eq, represents.inRing_eq] at counted
  rw [represents.failures_eq, represents.inRing_eq] at failed
  rw [represents.recovered_eq, represents.inRing_eq] at remembered
  refine ⟨sameRing, sameRatio, ?_, ?_, ?_⟩
  · rw [counted, Chronicle.successes_push]
    change _ = if chronicle.working then _ else _
    cases chronicle.working with
    | false => rfl
    | true => simp [UInt32.ofNat_add]
  · rw [failed, Chronicle.failures_push]
    change _ = if chronicle.working then _ else _
    cases chronicle.working with
    | false => rfl
    | true => simp [UInt32.ofNat_add]
  · rw [remembered, Chronicle.tested_push]
    change _ = (!chronicle.working && _)
    cases chronicle.working with
    | false => rfl
    | true => rfl

theorem Represents.counters (represents : record.Represents chronicle)
    (working : chronicle.working = true) (countable : chronicle.Countable) :
    record.successes.toNat = chronicle.successes ∧ record.failures.toNat = chronicle.failures := by
  rw [represents.successes_eq, represents.failures_eq, if_pos working, if_pos working]
  exact ⟨UInt32.toNat_ofNat_of_lt' countable.1, UInt32.toNat_ofNat_of_lt' countable.2⟩

theorem Represents.calls_eq (represents : record.Represents chronicle)
    (working : chronicle.working = true) (countable : chronicle.Countable) :
    record.calls = chronicle.calls := by
  obtain ⟨counted, failed⟩ := represents.counters working countable
  unfold HealthRecord.calls Chronicle.calls
  rw [counted, failed]

theorem Represents.windowRatio_eq (represents : record.Represents chronicle)
    (working : chronicle.working = true) (countable : chronicle.Countable) :
    record.windowRatio = chronicle.windowRatio := by
  have sameCalls := represents.calls_eq working countable
  unfold HealthRecord.calls at sameCalls
  unfold HealthRecord.windowRatio Chronicle.windowRatio
  rw [sameCalls, (represents.counters working countable).2]

theorem Represents.breaches_iff (represents : record.Represents chronicle)
    (working : chronicle.working = true) (countable : chronicle.Countable)
    (policy : HealthPolicy) :
    record.breaches policy = true ↔
      policy.minRequests.toNat ≤ chronicle.calls ∧
        policy.failureRatioThreshold < chronicle.windowRatio := by
  have sameCalls := represents.calls_eq working countable
  unfold HealthRecord.calls at sameCalls
  unfold HealthRecord.breaches
  rw [sameCalls, represents.windowRatio_eq working countable, Bool.and_eq_true,
    decide_eq_true_eq, decide_eq_true_eq]

theorem represents_close {policy : HealthPolicy} {verdict : Option Transition}
    (judged : chronicle.verdict policy = verdict)
    (sameRing : after.inRing = chronicle.staysIn verdict)
    (sameRatio : after.failureRatio = chronicle.nextRatio) (noSuccess : after.successes = 0)
    (noFailure : after.failures = 0) (forgotten : after.recovered = false) :
    after.Represents (chronicle.close policy) := by
  rw [← judged] at sameRing
  refine ⟨sameRing, sameRatio, ?_, ?_, ?_⟩
  · rw [noSuccess]
    exact (ite_self _).symm
  · rw [noFailure]
    exact (ite_self _).symm
  · rw [forgotten]
    exact (Bool.and_false _).symm

/-- An evaluation judges the window as the chronicle does and leaves nothing of it behind. -/
theorem Represents.close (represents : record.Represents chronicle)
    (countable : chronicle.Countable) {policy : HealthPolicy} {now : Instant}
    {verdict : Option Transition} (closing : record.Closing policy now after verdict) :
    verdict = chronicle.verdict policy ∧ after.Represents (chronicle.close policy) := by
  have sameRing := represents.inRing_eq
  have sameRatio := represents.ratio_eq
  have kept := represents.recovered_eq
  cases closing with
  | restored out tested =>
      have excluded : chronicle.working = false := sameRing.symm.trans out
      have seen : chronicle.tested = true := by simpa [excluded, tested] using kept.symm
      have judged : chronicle.verdict policy = some .restored := by
        simp [Chronicle.verdict, excluded, seen]
      refine ⟨judged.symm, represents_close judged rfl ?_ rfl rfl rfl⟩
      simp [Chronicle.nextRatio, excluded, seen]
  | waiting out untested =>
      have excluded : chronicle.working = false := sameRing.symm.trans out
      have unseen : chronicle.tested = false := by simpa [excluded, untested] using kept.symm
      have judged : chronicle.verdict policy = none := by
        simp [Chronicle.verdict, excluded, unseen]
      refine ⟨judged.symm, represents_close judged sameRing ?_ rfl rfl untested⟩
      simp [Chronicle.nextRatio, excluded, unseen, cleared, sameRatio]
  | idle working quiet =>
      have inside : chronicle.working = true := sameRing.symm.trans working
      have empty : chronicle.calls = 0 :=
        (represents.calls_eq inside countable).symm.trans quiet
      have judged : chronicle.verdict policy = none := by
        simp [Chronicle.verdict, inside, empty]
      refine ⟨judged.symm, represents_close judged sameRing ?_ rfl rfl ?_⟩
      · simp [Chronicle.nextRatio, inside, empty, cleared, sameRatio]
      · simp [cleared, kept, inside]
  | tripped working busy breach due fits =>
      have inside : chronicle.working = true := sameRing.symm.trans working
      have called : chronicle.calls ≠ 0 := by
        rw [← represents.calls_eq inside countable]
        exact busy
      have bad := (represents.breaches_iff inside countable policy).mp breach
      have ratio := represents.windowRatio_eq inside countable
      have judged : chronicle.verdict policy = some (.excluded chronicle.windowRatio) := by
        unfold Chronicle.verdict
        rw [if_pos inside, if_neg called, if_pos bad]
      refine ⟨by rw [judged, ratio], represents_close judged rfl ?_ rfl rfl rfl⟩
      simp [Chronicle.nextRatio, inside, called, ratio]
  | sound working busy within =>
      have inside : chronicle.working = true := sameRing.symm.trans working
      have called : chronicle.calls ≠ 0 := by
        rw [← represents.calls_eq inside countable]
        exact busy
      have fine : ¬ (policy.minRequests.toNat ≤ chronicle.calls ∧
          policy.failureRatioThreshold < chronicle.windowRatio) := by
        rw [← represents.breaches_iff inside countable policy, within]
        exact Bool.false_ne_true
      have judged : chronicle.verdict policy = none := by
        unfold Chronicle.verdict
        rw [if_pos inside, if_neg called, if_neg fine]
      refine ⟨judged.symm, represents_close judged sameRing ?_ rfl rfl ?_⟩
      · simp [Chronicle.nextRatio, inside, called, represents.windowRatio_eq inside countable]
      · simp [cleared, kept, inside]

/-- A step of a record is a step of its chronicle. -/
theorem Represents.step (represents : record.Represents chronicle)
    (countable : chronicle.Countable) {operation : Operation} {answer : Answer}
    (performed : (record.perform operation).2 = .ok answer) :
    (record.perform operation).1.Represents (chronicle.extend operation) ∧
      (chronicle.extend operation).verdicts =
        chronicle.verdicts ++ verdicts [(operation, answer)] := by
  cases operation with
  | success =>
      cases performed
      exact ⟨represents.push .success (notes_perform record .success nofun),
        (List.append_nil _).symm⟩
  | failure =>
      cases performed
      exact ⟨represents.push .failure (notes_perform record .failure nofun),
        (List.append_nil _).symm⟩
  | testSuccess =>
      cases performed
      exact ⟨represents.push .testSuccess (notes_perform record .testSuccess nofun),
        (List.append_nil _).symm⟩
  | claimProbe now =>
      obtain ⟨granted, rfl⟩ := granted_of_claimProbe performed
      exact ⟨represents.push (.claimProbe now) (notes_perform record (.claimProbe now) nofun),
        (List.append_nil _).symm⟩
  | evaluate policy now =>
      obtain ⟨verdict, evaluated, rfl⟩ := verdict_of_evaluate performed
      have closing : record.Closing policy now (record.evaluate policy now).1 verdict :=
        closing_of_evaluate (Prod.ext rfl evaluated)
      obtain ⟨judged, follows⟩ := represents.close countable closing
      refine ⟨follows, ?_⟩
      change _ ++ [chronicle.verdict policy] = _ ++ [verdict]
      rw [judged]

end Steps

theorem answered_or_overflows (record : HealthRecord) (operation : Operation) :
    (∃ answer, (record.perform operation).2 = .ok answer) ∨
      ∃ now, operation.time? = some now ∧ record.OutOfTime now := by
  cases operation with
  | success => exact .inl ⟨.done, rfl⟩
  | failure => exact .inl ⟨.done, rfl⟩
  | testSuccess => exact .inl ⟨.done, rfl⟩
  | claimProbe now =>
      change (∃ answer, (record.claimProbe now).2.map Answer.granted = .ok answer) ∨ _
      cases claimed : (record.claimProbe now).2 with
      | error overflow =>
          exact .inr ⟨now, rfl, (claimProbe_error claimed).2⟩
      | ok granted => exact .inl ⟨.granted granted, rfl⟩
  | evaluate policy now =>
      change (∃ answer, (record.evaluate policy now).2.map Answer.verdict = .ok answer) ∨ _
      cases evaluated : (record.evaluate policy now).2 with
      | error overflow =>
          exact .inr ⟨now, rfl, (evaluate_error evaluated).2⟩
      | ok verdict => exact .inl ⟨.verdict verdict, rfl⟩

theorem verdicts_append (events later : List (Operation × Answer)) :
    verdicts (events ++ later) = verdicts events ++ verdicts later :=
  List.filterMap_append

theorem represents_of_run {probeInterval : Nat} {created : Instant}
    {events : List (Operation × Answer)} {record : HealthRecord}
    (run : Run (fresh probeInterval created) events record)
    (bounded : ∀ earlier, earlier <+: events.map Prod.fst →
      (Chronicle.ofOperations earlier).Countable) :
    record.Represents (.ofOperations (events.map Prod.fst)) ∧
      verdicts events = (Chronicle.ofOperations (events.map Prod.fst)).verdicts := by
  induction run with
  | start => exact ⟨represents_fresh probeInterval created, rfl⟩
  | @step events record run operation answer performed induction =>
      rw [List.map_append, List.map_cons, List.map_nil] at bounded ⊢
      rw [Chronicle.ofOperations_append, verdicts_append]
      obtain ⟨represents, told⟩ :=
        induction (fun earlier part => bounded earlier (part.trans (List.prefix_append _ _)))
      have countable := bounded (events.map Prod.fst) (List.prefix_append _ _)
      obtain ⟨follows, added⟩ := represents.step countable performed
      exact ⟨follows, by rw [told, added]⟩

/-- The state, the failure ratio and the verdicts of a record follow from its history; it fails to
answer only when a time does not fit in 64 bits. -/
theorem run_follows_chronicle {probeInterval : Nat} {created : Instant}
    {events : List (Operation × Answer)} {record : HealthRecord}
    (run : Run (fresh probeInterval created) events record)
    (bounded : ∀ earlier, earlier <+: events.map Prod.fst →
      (Chronicle.ofOperations earlier).Countable) :
    let chronicle := Chronicle.ofOperations (events.map Prod.fst)
    record.inRing = chronicle.working ∧ record.failureRatio = chronicle.ratio ∧
      verdicts events = chronicle.verdicts ∧
      ∀ operation : Operation, (∃ answer, (record.perform operation).2 = .ok answer) ∨
        ∃ now, operation.time? = some now ∧ record.OutOfTime now := by
  obtain ⟨represents, told⟩ := represents_of_run run bounded
  exact ⟨represents.inRing_eq, represents.ratio_eq, told, record.answered_or_overflows⟩

def strict : HealthPolicy :=
  { failureRatioThreshold := 0.5, minRequests := 1, probeInterval := 100, filter := .nothing }

theorem restored_by_test_request :
    ∃ events record, Run (fresh 100 0) events record ∧
      (∀ earlier, earlier <+: events.map Prod.fst →
        (Chronicle.ofOperations earlier).Countable) ∧
      record.inRing = true ∧ record.failureRatio = 0.0 ∧
      verdicts events =
        [some (.excluded (Float.ofNat 1 / Float.ofNat 1)), none, some .restored] := by
  have excluded : Run (fresh 100 0) _ _ :=
    (Run.start.step .failure .done rfl).step (.evaluate strict 5)
      (.verdict (some (.excluded (Float.ofNat 1 / Float.ofNat 1)))) rfl
  have waiting := (excluded.step .success .done rfl).step (.evaluate strict 105)
    (.verdict none) rfl
  have run := (waiting.step .testSuccess .done rfl).step (.evaluate strict 205)
    (.verdict (some .restored)) rfl
  obtain ⟨working, ratio, told, -⟩ :=
    run_follows_chronicle run (Chronicle.countable_of_prefix (by decide))
  exact ⟨_, _, run, Chronicle.countable_of_prefix (by decide), working, ratio, told⟩

end HealthRecord

end QuorumRouting
