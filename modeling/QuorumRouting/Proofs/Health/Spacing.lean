import QuorumRouting.Proofs.Health.Claiming
import QuorumRouting.Proofs.Health.Chronicle

/-!
Test requests are spaced out. An exclusion is known by the time of the evaluation that began it and
by the times of the test requests granted since. The latest of these events settles, one interval
ahead, from when on the next test request is granted; so on the record's clock two of them are never
closer than an interval, within an exclusion whatever the order of the times asked for, and in the
whole run when no time lies before an earlier one.
-/

set_option autoImplicit false

namespace QuorumRouting

structure Exclusion where
  since : Instant
  grants : List Instant

def Exclusion.latest (exclusion : Exclusion) : Instant :=
  exclusion.grants.getLastD exclusion.since

namespace HealthRecord

def note : Option Exclusion → Operation × Answer → Option Exclusion
  | _, (.evaluate _ now, .verdict (some (.excluded _))) => some { since := now, grants := [] }
  | _, (.evaluate _ _, .verdict (some .restored)) => none
  | some exclusion, (.claimProbe now, .granted true) =>
      some { exclusion with grants := exclusion.grants ++ [now] }
  | present, _ => present

def exclusion? (events : List (Operation × Answer)) : Option Exclusion :=
  events.foldl note none

theorem exclusion?_append (events : List (Operation × Answer)) (event : Operation × Answer) :
    exclusion? (events ++ [event]) = note (exclusion? events) event := by
  unfold exclusion?
  rw [List.foldl_append, List.foldl_cons, List.foldl_nil]

def times (events : List (Operation × Answer)) : List Instant :=
  events.filterMap (fun event => event.1.time?)

/-- What an answered operation does to the ring and to the time of the next test request. -/
inductive Timing (record after : HealthRecord) : Operation × Answer → Prop where
  | kept {event : Operation × Answer} (unnoted : ∀ present, note present event = present)
      (sameRing : after.inRing = record.inRing) (sameProbe : after.nextProbe = record.nextProbe) :
      Timing record after event
  | granted {now : Instant} (due : record.isDue now = true) (out : after.inRing = false)
      (next : after.nextProbe.toNat =
        (record.reading now).toNat + record.probeInterval.toNat) :
      Timing record after (.claimProbe now, .granted true)
  | excluded {policy : HealthPolicy} {now : Instant} {ratio : Float}
      (working : record.inRing = true) (out : after.inRing = false)
      (next : after.nextProbe.toNat =
        (record.reading now).toNat + record.probeInterval.toNat) :
      Timing record after (.evaluate policy now, .verdict (some (.excluded ratio)))
  | restored {policy : HealthPolicy} {now : Instant} (out : record.inRing = false)
      (back : after.inRing = true) :
      Timing record after (.evaluate policy now, .verdict (some .restored))

@[simp]
theorem nextProbe_recordSuccess (record : HealthRecord) :
    record.recordSuccess.nextProbe = record.nextProbe := by
  unfold recordSuccess recordSuccesses
  split
  · rfl
  · rfl

@[simp]
theorem nextProbe_recordFailure (record : HealthRecord) :
    record.recordFailure.nextProbe = record.nextProbe := by
  unfold recordFailure recordFailures
  split
  · rfl
  · rfl

@[simp]
theorem nextProbe_recordTestSuccess (record : HealthRecord) :
    record.recordTestSuccess.nextProbe = record.nextProbe := by
  unfold recordTestSuccess
  split
  · exact nextProbe_recordSuccess record
  · rfl

theorem timing_of_evaluate {record after : HealthRecord} {policy : HealthPolicy} {now : Instant}
    {verdict : Option Transition} (closing : record.Closing policy now after verdict) :
    record.Timing after (.evaluate policy now, .verdict verdict) := by
  cases closing with
  | restored out tested => exact .restored out rfl
  | waiting out untested => exact .kept (fun present => by cases present <;> rfl) rfl rfl
  | idle working quiet => exact .kept (fun present => by cases present <;> rfl) rfl rfl
  | tripped working busy breach due fits =>
      exact .excluded working rfl (toNat_of_addMilliseconds fits)
  | sound working busy within => exact .kept (fun present => by cases present <;> rfl) rfl rfl

theorem timing_of_perform {record : HealthRecord} {operation : Operation} {answer : Answer}
    (performed : (record.perform operation).2 = .ok answer) :
    record.Timing (record.perform operation).1 (operation, answer) := by
  cases operation with
  | success =>
      cases performed
      exact .kept (fun present => by cases present <;> rfl) record.inRing_recordSuccess
        record.nextProbe_recordSuccess
  | failure =>
      cases performed
      exact .kept (fun present => by cases present <;> rfl) record.inRing_recordFailure
        record.nextProbe_recordFailure
  | testSuccess =>
      cases performed
      exact .kept (fun present => by cases present <;> rfl) record.inRing_recordTestSuccess
        record.nextProbe_recordTestSuccess
  | claimProbe now =>
      change (record.claimProbe now).2.map Answer.granted = .ok answer at performed
      change record.Timing (record.claimProbe now).1 _
      cases claimed : (record.claimProbe now).2 with
      | error overflow => rw [claimed] at performed; cases performed
      | ok granted =>
          rw [claimed] at performed
          cases performed
          obtain ⟨asked, after, inTime⟩ := claimProbe_eq_ok claimed
          rw [after]
          cases granted with
          | false => exact .kept (fun present => by cases present <;> rfl) rfl rfl
          | true =>
              exact .granted asked.symm ((record.isDue_iff now).mp asked.symm).1
                (record.toNat_nextProbe_postponed now (inTime rfl))
  | evaluate policy now =>
      obtain ⟨verdict, evaluated, rfl⟩ := verdict_of_evaluate performed
      exact timing_of_evaluate (closing_of_evaluate (Prod.ext rfl evaluated))

structure SameClock (record after : HealthRecord) : Prop where
  epoch_eq : after.epoch = record.epoch
  interval_eq : after.probeInterval = record.probeInterval

theorem SameClock.reading_eq {record after : HealthRecord} (same : record.SameClock after)
    (now : Instant) : after.reading now = record.reading now := by
  unfold reading
  rw [same.epoch_eq]

theorem SameClock.outOfTime_iff {record after : HealthRecord} (same : record.SameClock after)
    (now : Instant) : after.OutOfTime now ↔ record.OutOfTime now := by
  unfold OutOfTime
  rw [same.reading_eq, same.interval_eq]

theorem sameClock_of_closing {record after : HealthRecord} {policy : HealthPolicy} {now : Instant}
    {verdict : Option Transition} (closing : record.Closing policy now after verdict) :
    record.SameClock after := by
  cases closing with
  | restored | waiting | idle | tripped | sound => exact ⟨rfl, rfl⟩

theorem sameClock_of_perform {record : HealthRecord} {operation : Operation} {answer : Answer}
    (performed : (record.perform operation).2 = .ok answer) :
    record.SameClock (record.perform operation).1 := by
  cases operation with
  | success =>
      change record.SameClock record.recordSuccess
      unfold recordSuccess recordSuccesses
      split
      · exact ⟨rfl, rfl⟩
      · exact ⟨rfl, rfl⟩
  | failure =>
      change record.SameClock record.recordFailure
      unfold recordFailure recordFailures
      split
      · exact ⟨rfl, rfl⟩
      · exact ⟨rfl, rfl⟩
  | testSuccess =>
      change record.SameClock record.recordTestSuccess
      unfold recordTestSuccess recordSuccess recordSuccesses
      split
      · exact ⟨rfl, rfl⟩
      · exact ⟨rfl, rfl⟩
  | claimProbe now =>
      obtain ⟨due, claimed⟩ := record.claimProbe_fst now
      change record.SameClock (record.claimProbe now).1
      rw [claimed]
      exact ⟨rfl, rfl⟩
  | evaluate policy now =>
      obtain ⟨verdict, evaluated, -⟩ := verdict_of_evaluate performed
      exact sameClock_of_closing (closing_of_evaluate (Prod.ext rfl evaluated))

theorem sameClock_of_run {first record : HealthRecord} {events : List (Operation × Answer)}
    (run : Run first events record) : first.SameClock record := by
  induction run with
  | start => exact ⟨rfl, rfl⟩
  | step run operation answer performed ih =>
      have one := sameClock_of_perform performed
      exact ⟨one.epoch_eq.trans ih.epoch_eq, one.interval_eq.trans ih.interval_eq⟩

/-- The record of a node is out of the ring for as long as an exclusion lasts, and its next test
request is due one interval after the latest event of the exclusion. -/
structure Awaits (first record : HealthRecord) (present : Option Exclusion) : Prop where
  inRing_iff : record.inRing = true ↔ present = none
  nextProbe_eq : ∀ exclusion, present = some exclusion →
    record.nextProbe.toNat =
      (first.reading exclusion.latest).toNat + first.probeInterval.toNat

theorem awaits_of_timing {first record after : HealthRecord} {present : Option Exclusion}
    {event : Operation × Answer} (awaits : first.Awaits record present)
    (clock : first.SameClock record) (timing : record.Timing after event) :
    first.Awaits after (note present event) := by
  cases timing with
  | kept unnoted sameRing sameProbe =>
      rw [unnoted]
      exact
        { inRing_iff := by rw [sameRing]; exact awaits.inRing_iff
          nextProbe_eq := by rw [sameProbe]; exact awaits.nextProbe_eq }
  | @granted now due out next =>
      have excluded : present ≠ none := by
        intro working
        have inside := awaits.inRing_iff.mpr working
        rw [((record.isDue_iff now).mp due).1] at inside
        cases inside
      obtain ⟨exclusion, lasts⟩ := Option.ne_none_iff_exists'.mp excluded
      subst lasts
      refine ⟨by simp [out, note], ?_⟩
      intro later same
      cases same
      rw [next, clock.reading_eq, clock.interval_eq]
      simp [Exclusion.latest]
  | @excluded policy now ratio working out next =>
      refine ⟨by simp [out, note], ?_⟩
      intro later same
      cases same
      rw [next, clock.reading_eq, clock.interval_eq]
      rfl
  | restored out back => exact ⟨by simp [back, note], nofun⟩

theorem awaits_of_run {probeInterval : Nat} {created : Instant}
    {events : List (Operation × Answer)} {record : HealthRecord}
    (run : Run (fresh probeInterval created) events record) :
    (fresh probeInterval created).Awaits record (exclusion? events) := by
  induction run with
  | start => exact ⟨by simp [fresh, exclusion?], nofun⟩
  | step run operation answer performed ih =>
      rw [exclusion?_append]
      exact awaits_of_timing ih (sameClock_of_run run) (timing_of_perform performed)

theorem isDue_iff_of_awaits {first record : HealthRecord} {present : Option Exclusion}
    (awaits : first.Awaits record present) (clock : first.SameClock record) (now : Instant) :
    record.isDue now = true ↔ ∃ exclusion, present = some exclusion ∧
      first.probeInterval.toNat + (first.reading exclusion.latest).toNat ≤
        (first.reading now).toNat := by
  rw [isDue_iff, clock.reading_eq]
  cases present with
  | none => simp [awaits.inRing_iff.mpr rfl]
  | some exclusion =>
      have out : record.inRing = false := by
        rw [← Bool.not_eq_true, awaits.inRing_iff]
        nofun
      rw [out, awaits.nextProbe_eq exclusion rfl, Nat.add_comm]
      simp

theorem run_append {first record : HealthRecord} {earlier later : List (Operation × Answer)}
    (run : Run first (earlier ++ later) record) :
    ∃ middle, Run first earlier middle ∧ Run middle later record := by
  generalize whole : earlier ++ later = events at run
  -- Runs grow at their end, so the later part gives up its last event first.
  induction run generalizing later with
  | start =>
      obtain ⟨rfl, rfl⟩ := List.append_eq_nil_iff.mp whole
      exact ⟨first, .start, .start⟩
  | @step events record run operation answer performed ih =>
      rcases List.eq_nil_or_concat later with rfl | ⟨front, last, rfl⟩
      · rw [List.append_nil] at whole
        subst whole
        exact ⟨_, run.step operation answer performed, .start⟩
      · rw [List.concat_eq_append, ← List.append_assoc] at whole
        obtain ⟨sameFront, sameLast⟩ := List.append_inj' whole rfl
        cases sameLast
        obtain ⟨middle, before, after⟩ := ih sameFront
        refine ⟨middle, before, ?_⟩
        rw [List.concat_eq_append]
        exact after.step operation answer performed

theorem run_concat {first record : HealthRecord} {events : List (Operation × Answer)}
    {event : Operation × Answer} (run : Run first (events ++ [event]) record) :
    ∃ before, Run first events before ∧ before.Timing record event := by
  generalize whole : events ++ [event] = history at run
  cases run with
  | start => exact absurd whole (by simp)
  | step run operation answer performed =>
      obtain ⟨sameEvents, sameEvent⟩ := List.append_inj' whole rfl
      cases sameEvents
      cases sameEvent
      exact ⟨_, run, timing_of_perform performed⟩

/-- While an exclusion lasts the next test request only moves to later times. -/
theorem nextProbe_le_of_run {first record : HealthRecord} {events : List (Operation × Answer)}
    (run : Run first events record) (out : first.inRing = false)
    (lasting : ∀ operation, (operation, .verdict (some .restored)) ∉ events) :
    record.inRing = false ∧ first.nextProbe.toNat ≤ record.nextProbe.toNat := by
  induction run with
  | start => exact ⟨out, Nat.le_refl _⟩
  | @step events record run operation answer performed ih =>
      obtain ⟨stillOut, later⟩ :=
        ih (fun other member => lasting other (List.mem_append_left _ member))
      have timing := timing_of_perform performed
      generalize (record.perform operation).1 = after at timing
      have last : (operation, answer) ∈ events ++ [(operation, answer)] :=
        List.mem_append_right _ List.mem_cons_self
      cases timing with
      | kept unnoted sameRing sameProbe =>
          rw [sameRing, sameProbe]
          exact ⟨stillOut, later⟩
      | granted due out next =>
          have reached := ((record.isDue_iff _).mp due).2
          exact ⟨out, by omega⟩
      | excluded working out next => rw [stillOut] at working; cases working
      | restored out back => exact absurd last (lasting _)

/-- When no time lies before a grant, no later exclusion brings the next test request forward. -/
theorem le_nextProbe_of_run {first record : HealthRecord} {events : List (Operation × Answer)}
    (run : Run first events record) (bound : Nat)
    (held : first.inRing = false → bound ≤ first.nextProbe.toNat)
    (onward : ∀ time, time ∈ times events →
      bound ≤ (first.reading time).toNat + first.probeInterval.toNat) :
    record.inRing = false → bound ≤ record.nextProbe.toNat := by
  induction run with
  | start => exact held
  | @step events record run operation answer performed ih =>
      have earlier := ih (fun time member => onward time (by
        unfold times
        rw [List.filterMap_append]
        exact List.mem_append_left _ member))
      have clock := sameClock_of_run run
      have timing := timing_of_perform performed
      generalize (record.perform operation).1 = after at timing
      intro outside
      cases timing with
      | kept unnoted sameRing sameProbe =>
          rw [sameProbe]
          exact earlier (sameRing ▸ outside)
      | granted due out next =>
          have reached := (record.isDue_iff _).mp due
          have before := earlier reached.1
          omega
      | @excluded policy now ratio working out next =>
          -- The due time is written anew here, so only the order of the times keeps it up.
          rw [next, clock.reading_eq, clock.interval_eq]
          exact onward now (by simp [times, Operation.time?])
      | restored out back => rw [back] at outside; cases outside

def grant (now : Instant) : Operation × Answer :=
  (.claimProbe now, .granted true)

theorem due_of_timing_grant {record after : HealthRecord} {now : Instant}
    (timing : record.Timing after (grant now)) :
    record.isDue now = true ∧ after.inRing = false ∧ after.nextProbe.toNat =
      (record.reading now).toNat + record.probeInterval.toNat := by
  generalize same : grant now = event at timing
  cases timing with
  | kept unnoted =>
      subst same
      cases unnoted (some { since := now, grants := [] })
  | granted due out next => cases same; exact ⟨due, out, next⟩
  | excluded => cases same
  | restored => cases same

section Grants

variable {probeInterval : Nat} {created : Instant} {record : HealthRecord}
  {before between after : List (Operation × Answer)} {earlier later : Instant}

/-- The record right after the first of two grants and the one right before the second. -/
theorem run_between_grants
    (run : Run (fresh probeInterval created)
      (before ++ grant earlier :: between ++ grant later :: after) record) :
    ∃ granted asked, Run granted between asked ∧
      (fresh probeInterval created).SameClock granted ∧ granted.inRing = false ∧
      granted.nextProbe.toNat = ((fresh probeInterval created).reading earlier).toNat +
        (fresh probeInterval created).probeInterval.toNat ∧
      asked.inRing = false ∧
      asked.nextProbe.toNat ≤ ((fresh probeInterval created).reading later).toNat := by
  rw [show before ++ grant earlier :: between ++ grant later :: after =
    (before ++ [grant earlier] ++ between ++ [grant later]) ++ after by simp] at run
  obtain ⟨_, upToSecond, -⟩ := run_append run
  obtain ⟨asked, upTo, second⟩ := run_concat upToSecond
  obtain ⟨granted, upToFirst, middle⟩ := run_append upTo
  obtain ⟨fore, beginning, first⟩ := run_concat upToFirst
  obtain ⟨-, out, next⟩ := due_of_timing_grant first
  obtain ⟨waited, reached⟩ := (asked.isDue_iff later).mp (due_of_timing_grant second).1
  have foreClock := sameClock_of_run beginning
  rw [foreClock.reading_eq, foreClock.interval_eq] at next
  rw [(sameClock_of_run upTo).reading_eq] at reached
  exact ⟨granted, asked, middle, sameClock_of_run upToFirst, out, next, waited, reached⟩

theorem grants_apart_in_exclusion
    (run : Run (fresh probeInterval created)
      (before ++ grant earlier :: between ++ grant later :: after) record)
    (lasting : ∀ operation, (operation, .verdict (some .restored)) ∉ between) :
    (fresh probeInterval created).probeInterval.toNat +
        ((fresh probeInterval created).reading earlier).toNat ≤
      ((fresh probeInterval created).reading later).toNat := by
  obtain ⟨granted, asked, middle, -, out, next, -, reached⟩ := run_between_grants run
  have moved := (nextProbe_le_of_run middle out lasting).2
  omega

theorem grants_apart_of_ordered
    (run : Run (fresh probeInterval created)
      (before ++ grant earlier :: between ++ grant later :: after) record)
    (onward : ∀ time, time ∈ times between →
      ((fresh probeInterval created).reading earlier).toNat ≤
        ((fresh probeInterval created).reading time).toNat) :
    (fresh probeInterval created).probeInterval.toNat +
        ((fresh probeInterval created).reading earlier).toNat ≤
      ((fresh probeInterval created).reading later).toNat := by
  obtain ⟨granted, asked, middle, clock, out, next, waited, reached⟩ := run_between_grants run
  have moved := le_nextProbe_of_run middle granted.nextProbe.toNat (fun _ => Nat.le_refl _)
    (by
      intro time member
      have later := onward time member
      rw [clock.reading_eq, clock.interval_eq]
      omega) waited
  omega

end Grants

theorem millisecondsBetween_le (since : Instant) {earlier later : Instant}
    (ordered : earlier ≤ later) :
    millisecondsBetween since earlier ≤ millisecondsBetween since later :=
  Nat.div_le_div_right (Int.toNat_le_toNat (Int.sub_le_sub_right ordered since))

theorem toNat_reading (record : HealthRecord) {now : Instant}
    (fits : millisecondsBetween record.epoch now < UInt64.size) :
    (record.reading now).toNat = millisecondsBetween record.epoch now :=
  UInt64.toNat_ofNat_of_lt' fits

theorem times_append (events later : List (Operation × Answer)) :
    times (events ++ later) = times events ++ times later :=
  List.filterMap_append

theorem times_cons_grant (now : Instant) (events : List (Operation × Answer)) :
    times (grant now :: events) = now :: times events :=
  rfl

theorem times_between_grants (before between after : List (Operation × Answer))
    (earlier later : Instant) :
    times (before ++ grant earlier :: between ++ grant later :: after) =
      times before ++ earlier :: (times between ++ later :: times after) := by
  rw [List.append_assoc, times_append, List.cons_append, times_cons_grant, times_append,
    times_cons_grant]

/-- A claim is granted exactly when an interval has passed on the record's clock since the latest
event of the exclusion that lasts; a claim that is refused changes nothing. -/
theorem grants_spaced_of_run {probeInterval : Nat} {created : Instant}
    {events : List (Operation × Answer)} {record : HealthRecord}
    (run : Run (fresh probeInterval created) events record) :
    let interval := (fresh probeInterval created).probeInterval.toNat
    let clock := fun now => ((fresh probeInterval created).reading now).toNat
    (record.inRing = true ↔ exclusion? events = none) ∧
      (∀ now, ¬ record.OutOfTime now →
        ∃ granted, (record.claimProbe now).2 = .ok granted ∧
          (granted = true ↔ ∃ exclusion, exclusion? events = some exclusion ∧
            interval + clock exclusion.latest ≤ clock now) ∧
          (granted = false → (record.claimProbe now).1 = record)) ∧
      (∀ before between after earlier later,
        events = before ++ grant earlier :: between ++ grant later :: after →
        (∀ operation, (operation, .verdict (some .restored)) ∉ between) →
          interval + clock earlier ≤ clock later) ∧
      ((times events).Pairwise (fun earlier later => earlier ≤ later) →
        (∀ time, time ∈ times events → millisecondsBetween created time < UInt64.size) →
        ∀ before between after earlier later,
          events = before ++ grant earlier :: between ++ grant later :: after →
            interval + clock earlier ≤ clock later) := by
  have awaits := awaits_of_run run
  have clock := sameClock_of_run run
  refine ⟨awaits.inRing_iff, ?_, ?_, ?_⟩
  · intro now inTime
    have due := isDue_iff_of_awaits awaits clock now
    cases asked : record.isDue now with
    | false =>
        rw [claimProbe_of_not_due record now asked]
        rw [asked] at due
        exact ⟨false, rfl, due, fun _ => rfl⟩
    | true =>
        rw [claimProbe_of_due record now asked inTime]
        rw [asked] at due
        exact ⟨true, rfl, due, nofun⟩
  · rintro before between after earlier later rfl lasting
    exact grants_apart_in_exclusion run lasting
  · rintro ordered fits before between after earlier later rfl
    rw [times_between_grants] at ordered fits
    have onward : ∀ time, time ∈ times between ++ later :: times after → earlier ≤ time :=
      (List.pairwise_cons.mp (List.pairwise_append.mp ordered).2.1).1
    have short (time : Instant)
        (member : time ∈ earlier :: (times between ++ later :: times after)) :
        millisecondsBetween created time < UInt64.size :=
      fits time (List.mem_append_right _ member)
    apply grants_apart_of_ordered run
    intro time member
    have listed := List.mem_append_left (later :: times after) member
    rw [toNat_reading _ (short earlier List.mem_cons_self),
      toNat_reading _ (short time (List.mem_cons_of_mem _ listed))]
    exact millisecondsBetween_le created (onward time listed)

def allFailed : Float := Float.ofNat 1 / Float.ofNat 1

def restoration : List (Operation × Answer) :=
  [(.claimProbe (milliseconds 150), .granted false), (.testSuccess, .done),
    (.evaluate strict (milliseconds 250), .verdict (some .restored)), (.failure, .done),
    (.evaluate strict (milliseconds 301 - 1), .verdict (some (.excluded allFailed)))]

/-- The second exclusion is at the end of a millisecond, and the grant in it is at the beginning of
one, so that less than the interval lies between them. -/
def twoExclusions : List (Operation × Answer) :=
  [(.failure, .done),
    (.evaluate strict (milliseconds 5), .verdict (some (.excluded allFailed)))] ++
    grant (milliseconds 105) :: restoration ++ grant (milliseconds 400) :: []

theorem run_twoExclusions : ∃ record, Run (fresh 100 0) twoExclusions record := by
  have excluded : Run (fresh 100 0) _ _ :=
    (Run.start.step .failure .done rfl).step (.evaluate strict (milliseconds 5))
      (.verdict (some (.excluded allFailed))) rfl
  have tested := ((excluded.step (.claimProbe (milliseconds 105)) (.granted true) rfl).step
    (.claimProbe (milliseconds 150)) (.granted false) rfl).step .testSuccess .done rfl
  have again := ((tested.step (.evaluate strict (milliseconds 250)) (.verdict (some .restored))
    rfl).step .failure .done rfl).step (.evaluate strict (milliseconds 301 - 1))
    (.verdict (some (.excluded allFailed))) rfl
  exact ⟨_, again.step (.claimProbe (milliseconds 400)) (.granted true) rfl⟩

theorem grants_spaced_over_restoration :
    ∃ record, Run (fresh 100 0) twoExclusions record ∧
      (¬ record.OutOfTime (milliseconds 500 - 1) ∧
        (record.claimProbe (milliseconds 500 - 1)).2 = .ok false) ∧
      (¬ record.OutOfTime (milliseconds 500) ∧
        (record.claimProbe (milliseconds 500)).2 = .ok true) ∧
      (times twoExclusions).Pairwise (fun earlier later => earlier ≤ later) ∧
      100 + ((fresh 100 0).reading (milliseconds 105)).toNat ≤
        ((fresh 100 0).reading (milliseconds 400)).toNat := by
  obtain ⟨record, run⟩ := run_twoExclusions
  obtain ⟨-, asked, -, apart⟩ := grants_spaced_of_run run
  have inTime (now : Instant) (fits : ¬ (fresh 100 0).OutOfTime now) : ¬ record.OutOfTime now :=
    fun late => fits (((sameClock_of_run run).outOfTime_iff now).mp late)
  have early : ¬ record.OutOfTime (milliseconds 500 - 1) :=
    inTime _ (by unfold OutOfTime; decide)
  have punctual : ¬ record.OutOfTime (milliseconds 500) :=
    inTime _ (by unfold OutOfTime; decide)
  have ordered : (times twoExclusions).Pairwise (fun earlier later => earlier ≤ later) := by
    decide
  refine ⟨record, run, ⟨early, ?_⟩, ⟨punctual, ?_⟩, ordered, ?_⟩
  · obtain ⟨granted, answered, due, -⟩ := asked _ early
    have refused : granted = false := by
      rw [← Bool.not_eq_true, due]
      rintro ⟨exclusion, lasts, reached⟩
      cases lasts
      revert reached
      decide
    rw [answered, refused]
  · obtain ⟨granted, answered, due, -⟩ := asked _ punctual
    rw [answered, due.mpr ⟨_, rfl, by decide⟩]
  · exact apart ordered (by decide) _ restoration [] _ _ rfl

end HealthRecord

end QuorumRouting
