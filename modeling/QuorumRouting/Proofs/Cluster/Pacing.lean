import Mathlib.Data.List.Induction
import QuorumRouting.Proofs.Cluster.Exclusions

/-!
The pace of the test requests of a cluster. The settings give the interval between them in seconds,
and a record keeps it as milliseconds in 64 bits. While an exclusion of a node lasts, its test
requests are an interval apart on the record's clock and the first of them is an interval away from
the exclusion, and when no time asked for is within an interval of the end of the clock, no sum of
times needs more than 64 bits. But an interval that does not fit in 64 bits itself is cut, and then
test requests are granted too early.
-/

set_option autoImplicit false

namespace QuorumRouting

namespace Exclusion

/-- Is each test request an interval later than the exclusion and than every one before it? -/
def Spaced (exclusion : Exclusion) (interval : Nat) (clock : Instant → Nat) : Prop :=
  (exclusion.since :: exclusion.grants).Pairwise
    (fun earlier later => interval + clock earlier ≤ clock later)

variable {exclusion : Exclusion} {interval : Nat} {clock : Instant → Nat}

theorem Spaced.le_latest (spaced : exclusion.Spaced interval clock) {time : Instant}
    (member : time ∈ exclusion.since :: exclusion.grants) :
    clock time ≤ clock exclusion.latest := by
  unfold Spaced at spaced
  unfold latest
  rcases List.eq_nil_or_concat exclusion.grants with none | ⟨front, last, some⟩
  · rw [none] at member ⊢
    rw [List.mem_singleton.mp member]
    exact Nat.le_refl _
  · rw [List.concat_eq_append] at some
    rw [some, ← List.cons_append] at member spaced
    rw [some, List.getLastD_concat]
    rcases List.mem_append.mp member with before | here
    · have apart := (List.pairwise_append.mp spaced).2.2 time before last List.mem_cons_self
      omega
    · rw [List.mem_singleton.mp here]

theorem Spaced.grant (spaced : exclusion.Spaced interval clock) {now : Instant}
    (apart : interval + clock exclusion.latest ≤ clock now) :
    (exclusion.grant now).Spaced interval clock := by
  change (exclusion.since :: (exclusion.grants ++ [now])).Pairwise _
  rw [← List.cons_append, List.pairwise_append]
  refine ⟨spaced, List.pairwise_singleton _ _, ?_⟩
  intro earlier member later here
  rw [List.mem_singleton.mp here]
  have before := spaced.le_latest member
  omega

end Exclusion

namespace HealthRecord

structure Paced (record : HealthRecord) (interval : Nat) (present : Option Exclusion) : Prop where
  clock : (fresh interval record.epoch).SameClock record
  awaits : (fresh interval record.epoch).Awaits record present
  spaced : ∀ exclusion, present = some exclusion →
    exclusion.Spaced (UInt64.ofNat interval).toNat (fun now => (record.reading now).toNat)

theorem paced_fresh (interval : Nat) (created : Instant) :
    (fresh interval created).Paced interval none :=
  { clock := ⟨rfl, rfl⟩
    awaits := ⟨by simp [fresh], nofun⟩
    spaced := nofun }

theorem Paced.spaced_of_timing {record after : HealthRecord} {interval : Nat}
    {present : Option Exclusion} (paced : record.Paced interval present)
    {event : Operation × Answer} (timing : record.Timing after event) (exclusion : Exclusion)
    (lasts : note present event = some exclusion) :
    exclusion.Spaced (UInt64.ofNat interval).toNat (fun now => (record.reading now).toNat) := by
  cases timing with
  | kept unnoted sameRing sameProbe =>
      rw [unnoted] at lasts
      exact paced.spaced exclusion lasts
  | @granted now due out next =>
      obtain ⟨earlier, rfl, apart⟩ := (isDue_iff_of_awaits paced.awaits paced.clock now).mp due
      cases lasts
      exact (paced.spaced earlier rfl).grant apart
  | excluded working out next =>
      cases lasts
      exact List.pairwise_singleton _ _
  | restored out back => cases lasts

theorem Paced.perform {record : HealthRecord} {interval : Nat} {present : Option Exclusion}
    (paced : record.Paced interval present) {operation : Operation} {answer : Answer}
    (performed : (record.perform operation).2 = .ok answer) :
    (record.perform operation).1.Paced interval (note present (operation, answer)) := by
  have same := sameClock_of_perform performed
  have timing := timing_of_perform performed
  generalize (record.perform operation).1 = after at same timing
  have sameFresh : fresh interval after.epoch = fresh interval record.epoch := by
    rw [same.epoch_eq]
  refine ⟨?_, ?_, ?_⟩
  · rw [sameFresh]
    exact ⟨same.epoch_eq.trans paced.clock.epoch_eq,
      same.interval_eq.trans paced.clock.interval_eq⟩
  · rw [sameFresh]
    exact awaits_of_timing paced.awaits paced.clock timing
  · intro exclusion lasts
    simp only [same.reading_eq]
    exact paced.spaced_of_timing timing exclusion lasts

end HealthRecord

namespace Cluster

variable {Client : Type} {cluster : Cluster Client}

/-! ### Times -/

namespace Operation

def time? : Operation Client → Option Instant
  | .evaluateHealth now => some now
  | .probes _ now | .recoveryQuorum _ now | .resolve _ now => some now
  | _ => none

def created? : Operation Client → Option Instant
  | .updateNodes created _ => some created
  | _ => none

end Operation

def beginnings (created : Instant) (operations : List (Operation Client)) : List Instant :=
  created :: operations.filterMap Operation.created?

/-- Is every time asked for an interval away from the end of the clock of every record? -/
def Timely (interval : Nat) (created : Instant) (operations : List (Operation Client)) : Prop :=
  ∀ now, now ∈ operations.filterMap Operation.time? →
    ∀ epoch, epoch ∈ beginnings created operations →
      millisecondsBetween epoch now + interval < UInt64.size

theorem beginnings_append (created : Instant) (operations later : List (Operation Client)) :
    beginnings created (operations ++ later) =
      beginnings created operations ++ later.filterMap Operation.created? := by
  unfold beginnings
  rw [List.filterMap_append, List.cons_append]

theorem beginnings_concat (created : Instant) (operations : List (Operation Client))
    (operation : Operation Client) :
    beginnings created (operations ++ [operation]) =
      beginnings created operations ++ operation.created?.toList := by
  rw [beginnings_append, List.filterMap_cons]
  cases operation.created? with
  | none => rfl
  | some created => rfl

theorem Timely.of_append {interval : Nat} {created : Instant}
    {operations later : List (Operation Client)}
    (timely : Timely interval created (operations ++ later)) :
    Timely interval created operations := by
  intro now asked epoch began
  apply timely now
  · rw [List.filterMap_append]
    exact List.mem_append_left _ asked
  · rw [beginnings_append]
    exact List.mem_append_left _ began

structure Keeps (cluster : Cluster Client) (interval : Nat) (beginnings : List Instant)
    (exclusions : NodeId → Option Exclusion) : Prop where
  interval_eq : cluster.health.policy.probeInterval = interval
  paced : ∀ id record, cluster.health.find? id = some record →
    record.Paced interval (exclusions id) ∧ record.epoch ∈ beginnings
  untracked : ∀ id, cluster.health.find? id = none → exclusions id = none

theorem keeps_of_create {partitioner : Partitioner} {settings : Settings} {created : Instant}
    {nodes : List (Handle Client)}
    (success : create partitioner settings created nodes = .ok cluster) :
    cluster.Keeps (1000 * settings.probeInterval.toNat)
      (beginnings created ([] : List (Operation Client))) (fun _ => none) := by
  obtain ⟨-, same⟩ := create_eq_ok success
  subst same
  refine ⟨congrArg HealthPolicy.probeInterval (HealthRegistry.policy_trackAll _ _ _), ?_,
    fun _ _ => rfl⟩
  intro id record found
  change HealthRegistry.find? _ id = _ at found
  rw [HealthRegistry.find?_trackAll] at found
  split at found
  · cases found
    exact ⟨HealthRecord.paced_fresh _ created, List.mem_singleton_self created⟩
  · cases found

theorem Keeps.perform {interval : Nat} {began : List Instant}
    {exclusions : NodeId → Option Exclusion} (keeps : cluster.Keeps interval began exclusions)
    (consistent : cluster.Consistent) (operation : Operation Client)
    (fits : (cluster.perform operation).2 ≠ .error (.overflowed .sum)) :
    (cluster.perform operation).1.Keeps interval (began ++ operation.created?.toList)
      (fun id => cluster.note id (exclusions id) operation) := by
  refine ⟨(consistent.policy_perform operation fits ▸ keeps.interval_eq), ?_, ?_⟩
  · intro id record found
    have happens := consistent.happens_perform id operation fits
    have earlier := keeps.paced id
    have unknown := keeps.untracked id
    generalize (cluster.perform operation).1.health.find? id = after at found happens
    generalize cluster.health.find? id = before at earlier unknown happens
    cases happens with
    | spared unnoted =>
        obtain ⟨paced, listed⟩ := earlier record found
        rw [unnoted]
        exact ⟨paced, List.mem_append_left _ listed⟩
    | stepped performed noted =>
        cases found
        obtain ⟨paced, listed⟩ := earlier _ rfl
        rw [noted]
        refine ⟨paced.perform performed, List.mem_append_left _ ?_⟩
        rw [(HealthRecord.sameClock_of_perform performed).epoch_eq]
        exact listed
    | met asked unnoted =>
        cases found
        rw [unnoted, unknown rfl, keeps.interval_eq, asked]
        exact ⟨HealthRecord.paced_fresh _ _, List.mem_append_right _ List.mem_cons_self⟩
    | forgotten noted => cases found
  · intro id found
    have happens := consistent.happens_perform id operation fits
    have unknown := keeps.untracked id
    rw [found] at happens
    generalize cluster.health.find? id = before at unknown happens
    cases happens with
    | spared unnoted => rw [unnoted, unknown rfl]
    | forgotten noted => exact noted _

theorem keeps_of_run {interval : Nat} {created : Instant} {first : Cluster Client}
    {events : List (Operation Client × Answer Client)} (consistent : first.Consistent)
    (keeps : first.Keeps interval (beginnings created ([] : List (Operation Client)))
      (fun _ => none))
    (run : Run first events cluster) :
    cluster.Keeps interval (beginnings created (events.map Prod.fst))
      (fun id => first.exclusion? id (events.map Prod.fst)) := by
  induction run with
  | start => exact keeps
  | step run operation fits ih =>
      have stepped := ih.perform (consistent.run run) operation fits
      rw [List.map_append, List.map_singleton, beginnings_concat]
      simp only [exclusion?_of_step run]
      exact stepped

/-! ### Sums of times -/

theorem build_fits (blueprint : Blueprint) (nodes : List (Handle Client))
    {failure : Failure Refusal} (refused : blueprint.build nodes = .error failure) :
    failure ≠ .overflowed .sum := by
  unfold Blueprint.build at refused
  cases stopped : blueprint.obstacle nodes with
  | none => rw [stopped] at refused; cases refused
  | some obstacle =>
      rw [stopped] at refused
      cases refused
      rintro rfl
      unfold Blueprint.obstacle at stopped
      dsimp only at stopped
      repeat' split at stopped
      all_goals cases stopped

theorem Consistent.perform_fits (consistent : cluster.Consistent) (operation : Operation Client)
    (early : ∀ now, operation.time? = some now →
      ∀ entry, entry ∈ cluster.health.entries → ¬ entry.2.OutOfTime now) :
    (cluster.perform operation).2 ≠ .error (.overflowed .sum) := by
  have claims (key : Key) (now : Instant) (asked : operation.time? = some now) :=
    consistent.probes_eq key now (inTime_of_entries key (early now asked))
  cases operation with
  | updateNodes created nodes =>
      change (cluster.updateNodes created nodes).2.map _ ≠ _
      by_cases admitted : cluster.blueprint.Admits nodes
      · rw [updateNodes_of_admits cluster created nodes admitted]
        nofun
      · obtain ⟨failure, refused, unchanged⟩ :=
          updateNodes_of_not_admits cluster created nodes admitted
        rw [unchanged]
        intro overflowed
        exact build_fits _ _ refused (Except.error.inj overflowed)
  | rebalance =>
      change cluster.rebalance.2.map _ ≠ _
      rw [consistent.toGrounded.rebalance]
      nofun
  | evaluateHealth now =>
      change (cluster.evaluateHealth now).2.map Reply.transitions ≠ _
      have fits := consistent.evaluateHealth_fits now (early now rfl)
      cases evaluated : (cluster.evaluateHealth now).2 with
      | ok transitions => nofun
      | error failure =>
          rw [evaluated] at fits
          intro overflowed
          exact fits (congrArg Except.error (Except.error.inj overflowed))
  | node key => nofun
  | quorum key => nofun
  | probes key now =>
      unfold Cluster.perform
      dsimp only
      rw [claims key now rfl]
      nofun
  | recoveryQuorum key now =>
      unfold Cluster.perform Cluster.recoveryQuorum
      dsimp only
      rw [claims key now rfl]
      nofun
  | resolve key now =>
      unfold Cluster.perform Plan.resolve
      dsimp only
      rw [claims key now rfl]
      nofun
  | record id error => nofun
  | recordTestRequest id error => nofun

theorem Keeps.not_outOfTime {interval : Nat} {began : List Instant}
    {exclusions : NodeId → Option Exclusion} (keeps : cluster.Keeps interval began exclusions)
    (consistent : cluster.Consistent) {now : Instant}
    (timely : ∀ epoch, epoch ∈ began → millisecondsBetween epoch now + interval < UInt64.size)
    (entry : NodeId × HealthRecord) (member : entry ∈ cluster.health.entries) :
    ¬ entry.2.OutOfTime now := by
  obtain ⟨paced, listed⟩ := keeps.paced entry.1 entry.2
    (cluster.health.find?_of_mem_entries consistent.nodup_ids member)
  have fits := timely entry.2.epoch listed
  have reading : (entry.2.reading now).toNat ≤ millisecondsBetween entry.2.epoch now :=
    Nat.mod_le _ _
  have cut : entry.2.probeInterval.toNat ≤ interval := by
    rw [paced.clock.interval_eq]
    exact Nat.mod_le _ _
  unfold HealthRecord.OutOfTime
  omega

theorem exists_run_of_timely {interval : Nat} {created : Instant} {first : Cluster Client}
    (consistent : first.Consistent)
    (keeps : first.Keeps interval (beginnings created ([] : List (Operation Client)))
      (fun _ => none))
    (operations : List (Operation Client)) (timely : Timely interval created operations) :
    ∃ events cluster, Run first events cluster ∧ events.map Prod.fst = operations := by
  induction operations using List.reverseRecOn with
  | nil => exact ⟨[], first, .start, rfl⟩
  | append_singleton operations operation ih =>
      obtain ⟨events, cluster, run, rfl⟩ := ih timely.of_append
      have reached := consistent.run run
      have fits := reached.perform_fits operation (by
        intro now asked
        apply (keeps_of_run consistent keeps run).not_outOfTime reached
        intro epoch began
        apply timely now
        · rw [List.filterMap_append, List.mem_append]
          exact .inr (List.mem_filterMap.mpr ⟨operation, List.mem_cons_self, asked⟩)
        · rw [beginnings_append]
          exact List.mem_append_left _ began)
      exact ⟨_, _, run.step operation fits, List.map_append⟩

/-- Operations whose times keep an interval away from the end of the clocks never overflow, and in
every state of every run the test requests of an exclusion are spaced by the interval that the
settings give, as far as it fits in 64 bits of milliseconds. -/
theorem probes_paced_of_create {partitioner : Partitioner} {settings : Settings}
    {created : Instant} {nodes : List (Handle Client)} {first : Cluster Client}
    (success : create partitioner settings created nodes = .ok first) :
    let interval := 1000 * settings.probeInterval.toNat
    (∀ operations, Timely interval created operations →
      ∃ events cluster, Run first events cluster ∧ events.map Prod.fst = operations) ∧
    ∀ events cluster, Run first events cluster → ∀ id,
      (cluster.health.isInRing id = true ↔ first.exclusion? id (events.map Prod.fst) = none) ∧
      ∀ exclusion, first.exclusion? id (events.map Prod.fst) = some exclusion →
        ∃ record, cluster.health.find? id = some record ∧
          let clock := fun now => (record.reading now).toNat
          exclusion.Spaced (interval % UInt64.size) clock ∧
            (interval < UInt64.size → exclusion.Spaced interval clock) := by
  intro interval
  have consistent := consistent_of_create success
  have keeps := keeps_of_create success
  refine ⟨exists_run_of_timely consistent keeps, ?_⟩
  intro events cluster run id
  have kept := keeps_of_run consistent keeps run
  have paced := kept.paced id
  have unknown := kept.untracked id
  rw [HealthRegistry.isInRing_eq]
  cases found : cluster.health.find? id with
  | none =>
      rw [unknown found]
      exact ⟨iff_of_true rfl rfl, nofun⟩
  | some record =>
      obtain ⟨waits, -⟩ := paced record found
      refine ⟨waits.awaits.inRing_iff, ?_⟩
      intro exclusion lasts
      have spaced : exclusion.Spaced (interval % UInt64.size)
          (fun now => (record.reading now).toNat) := waits.spaced exclusion lasts
      refine ⟨record, rfl, spaced, ?_⟩
      intro whole
      rw [Nat.mod_eq_of_lt whole] at spaced
      exact spaced

def probing : List (Operation Unit) :=
  [.record "ab" (some (.connect "refused")), .evaluateHealth 0,
    .resolve (.ofText "k") (milliseconds 5000),
    .updateNodes (milliseconds 7000) (Handle.named 0 ["c"])]

theorem run_probed : ∃ events cluster, Run pair events cluster ∧
    pair.exclusion? "ab" (events.map Prod.fst) =
      some { since := 0, grants := [milliseconds 5000] } := by
  have consistent := consistent_of_create create_pair
  obtain ⟨earlier, excluded, lasts⟩ := (consistent.run run_shaken).run_excluded run_shaken
    "ab" 0 evaluateAll_shaken rfl
  obtain ⟨events, run, granted⟩ := (consistent.run excluded).run_granted excluded lasts _ _
    (inTime_halved (.ofText "k")) (due_halved (.ofText "k") ▸ List.mem_cons_self)
  exact ⟨events, _, run, granted⟩

theorem probes_paced_after_exclusion :
    create (Blueprint.ofLengths 2 2).partitioner oneStrike 0 (Handle.named 0 ["ab", "c"]) =
        .ok pair ∧
      Timely 5000 0 probing ∧
      (∃ events cluster, Run pair events cluster ∧ events.map Prod.fst = probing) ∧
      ∃ events cluster record, Run pair events cluster ∧
        pair.exclusion? "ab" (events.map Prod.fst) =
          some { since := 0, grants := [milliseconds 5000] } ∧
        cluster.health.find? "ab" = some record ∧
        5000 + (record.reading 0).toNat ≤ (record.reading (milliseconds 5000)).toNat := by
  obtain ⟨answered, paced⟩ := probes_paced_of_create create_pair
  have timely : Timely 5000 0 probing := by
    unfold Timely
    decide
  obtain ⟨events, cluster, run, lasts⟩ := run_probed
  obtain ⟨record, found, -, spaced⟩ := (paced events cluster run "ab").2 _ lasts
  refine ⟨create_pair, timely, answered probing timely, events, cluster, record, run, lasts, found,
    ?_⟩
  exact (List.pairwise_cons.mp (spaced (by decide))).1 _ List.mem_cons_self

/-- Settings that pass the check although the interval they give is cut to 384 milliseconds. -/
def hasty : Settings :=
  { oneStrike with probeInterval := 18446744073709552 }

def restless : Cluster Unit :=
  { blueprint := .ofLengths 2 2
    health := (HealthRegistry.empty hasty.healthPolicy).trackAll 0 ["ab"]
    nodes := Handle.named 0 ["ab"]
    working := (Blueprint.ofLengths 2 2).ring (Handle.named 0 ["ab"])
    recovery := (Blueprint.ofLengths 2 2).ring (Handle.named 0 ["ab"]) }

theorem create_restless :
    create (Blueprint.ofLengths 2 2).partitioner hasty 0 (Handle.named 0 ["ab"]) = .ok restless :=
  rfl

theorem run_restless : ∃ events cluster record, Run restless events cluster ∧
    restless.exclusion? "ab" (events.map Prod.fst) =
      some { since := 0, grants := [milliseconds 384] } ∧
    cluster.health.find? "ab" = some record := by
  have failed : Run restless _ _ :=
    Run.start.step (.record "ab" (some (.connect "refused"))) nofun
  have consistent := consistent_of_create create_restless
  obtain ⟨earlier, excluded, lasts⟩ := (consistent.run failed).run_excluded failed
    "ab" 0 (HealthRegistry.evaluateAll_of_entry rfl) rfl
  have everybody := (Blueprint.ofLengths 2 2).quorum_perm (Handle.named 0 ["ab"])
    (.ofText "k") (by decide) (by decide)
  obtain ⟨events, run, granted⟩ := (consistent.run excluded).run_granted excluded lasts
    (.ofText "k") (milliseconds 384) (inTime_of_entries _ (by decide)) (by
      apply (mem_ids_dueAmong _ _ _ _).mpr
      exact ⟨(everybody.map Handle.id).mem_iff.mpr (by decide), by decide⟩)
  exact ⟨events, _, _, run, granted, rfl⟩

/-- An interval that does not fit in 64 bits of milliseconds lets a test request through early. -/
theorem probe_granted_early :
    create (Blueprint.ofLengths 2 2).partitioner hasty 0 (Handle.named 0 ["ab"]) = .ok restless ∧
      ∃ events cluster exclusion record, Run restless events cluster ∧
        restless.exclusion? "ab" (events.map Prod.fst) = some exclusion ∧
        cluster.health.find? "ab" = some record ∧
        ¬ exclusion.Spaced (1000 * hasty.probeInterval.toNat)
          (fun now => (record.reading now).toNat) := by
  obtain ⟨events, cluster, record, run, lasts, found⟩ := run_restless
  refine ⟨create_restless, events, cluster, _, record, run, lasts, found, ?_⟩
  intro spaced
  have apart := (List.pairwise_cons.mp spaced).1 _ List.mem_cons_self
  have cut := (record.reading (milliseconds 384)).toNat_lt
  change 1000 * 18446744073709552 + (record.reading 0).toNat ≤
    (record.reading (milliseconds 384)).toNat at apart
  omega

end Cluster

end QuorumRouting
