import QuorumRouting.Proofs.Call.History
import QuorumRouting.Proofs.Health.Recovery

/-!
Where restorations come from. A node is restored because a test request to it succeeded after it was
last excluded, under a slot that was granted to it while it was excluded. A record does not tell the
slots of one exclusion from those of another: a test request that is still under way when its node
comes back and is excluded again counts for the new exclusion, and restores the node from it.
-/

set_option autoImplicit false

namespace QuorumRouting

namespace Cluster

variable {Client : Type}

/-- Excluded nodes were excluded by an event and test requests that count have succeeded; tickets
come from plans. -/
structure Traced (events : List (Event Client)) (cluster : Cluster Client)
    (held : List (Ticket Client)) : Prop where
  excluded : ∀ id record, cluster.health.find? id = some record → record.inRing = false →
    ∃ since, ExcludedSince events id since
  recovered : ∀ id record, cluster.health.find? id = some record → record.recovered = true →
    record.inRing = false ∧ ∃ since success ticket, Recovery events id since success ticket
  granted : ∀ ticket, ticket ∈ held → Granted events ticket

section Steps

variable {events : List (Event Client)} {cluster after : Cluster Client}
  {held : List (Ticket Client)} {event : Event Client}

/-- Does every record afterwards say of its node what was said of it before, or that it is new? -/
def SameStates (before after : HealthRegistry) : Prop :=
  ∀ id record, after.find? id = some record →
    (record.inRing = true ∧ record.recovered = false) ∨
    ∃ known, before.find? id = some known ∧ record.inRing = known.inRing ∧
      record.recovered = known.recovered

theorem sameStates_refl (health : HealthRegistry) : SameStates health health :=
  fun _ record found => .inr ⟨record, found, rfl, rfl⟩

theorem sameStates_claimProbes (now : Instant) (health : HealthRegistry)
    (nodes : List (Handle Client)) : SameStates health (claimProbes now health nodes).1 := by
  intro id record found
  have same := map_find?_claimProbes (fun record => (record.inRing, record.recovered))
    (fun _ _ => rfl) now health nodes id
  rw [found] at same
  obtain ⟨known, before, kept⟩ := Option.map_eq_some_iff.mp same.symm
  exact .inr ⟨known, before, (congrArg Prod.fst kept).symm, (congrArg Prod.snd kept).symm⟩

theorem sameStates_healthFor (created : Instant) (nodes : List (Handle Client)) :
    SameStates cluster.health (cluster.healthFor created nodes) := by
  intro id record found
  rw [find?_healthFor] at found
  split at found
  · cases known : cluster.health.find? id with
    | none =>
        rw [known] at found
        cases found
        exact .inl ⟨rfl, rfl⟩
    | some old =>
        rw [known] at found
        cases found
        exact .inr ⟨_, rfl, rfl, rfl⟩
  · cases found

theorem Traced.of_sameStates (traced : Traced events cluster held)
    (same : SameStates cluster.health after.health) (quiet : ¬ event.IsEvaluation)
    {rest : List (Ticket Client)}
    (granted : ∀ ticket, ticket ∈ rest → Granted (events ++ [event]) ticket) :
    Traced (events ++ [event]) after rest := by
  refine ⟨?_, ?_, granted⟩
  · intro id record found out
    rcases same id record found with ⟨working, _⟩ | ⟨known, before, sameRing, _⟩
    · rw [working] at out
      cases out
    · obtain ⟨since, excluded⟩ := traced.excluded id known before (sameRing ▸ out)
      exact ⟨since, excluded.append_of_quiet quiet⟩
  · intro id record found recovered
    rcases same id record found with ⟨_, fresh⟩ | ⟨known, before, sameRing, sameMark⟩
    · rw [fresh] at recovered
      cases recovered
    · obtain ⟨out, since, success, ticket, recovery⟩ :=
        traced.recovered id known before (sameMark ▸ recovered)
      exact ⟨sameRing.trans out, since, success, ticket, recovery.append quiet⟩

theorem find?_completed {member : Member Client} {error : Option CallError} {id : NodeId}
    {record : HealthRecord}
    (found : (cluster.completed member error).health.find? id = some record) :
    ∃ known, cluster.health.find? id = some known ∧ record.inRing = known.inRing ∧
      (record.recovered = true → known.recovered = true ∨
        known.inRing = false ∧ id = member.handle.id ∧ member.testRequest = true ∧
          error = none) := by
  change (cluster.health.account member.testRequest member.handle.id error).1.find? id =
    some record at found
  rw [HealthRegistry.find?_account] at found
  split at found
  · rename_i same
    obtain ⟨known, before, changed⟩ := Option.map_eq_some_iff.mp found
    subst changed
    refine ⟨known, before, HealthRegistry.inRing_effect _ _ known, ?_⟩
    intro recovered
    rcases HealthRegistry.recovered_effect recovered with marked | ⟨out, tested, succeeded⟩
    · exact .inl marked
    · exact .inr ⟨out, same, tested, HealthRegistry.error_eq_none_of_classify succeeded⟩
  · exact ⟨record, found, rfl, .inl⟩

theorem Traced.completed (traced : Traced events cluster held) (ticket : Ticket Client)
    (error : Option CallError) {rest : List (Ticket Client)}
    (holds : held.Perm (ticket :: rest)) :
    Traced (events ++ [.completion ticket error]) (cluster.completed ticket.member error) rest := by
  have quiet : ¬ (Event.completion ticket error).IsEvaluation := by
    rintro ⟨now, answer, shape⟩
    cases shape
  have granted (other : Ticket Client) (listed : other ∈ ticket :: rest) : Granted events other :=
    traced.granted other (holds.mem_iff.mpr listed)
  refine ⟨?_, ?_, fun other listed => (granted other (List.mem_cons_of_mem _ listed)).append⟩
  · intro id record found out
    obtain ⟨known, before, sameRing, _⟩ := find?_completed found
    obtain ⟨since, excluded⟩ := traced.excluded id known before (sameRing ▸ out)
    exact ⟨since, excluded.append_of_quiet quiet⟩
  · intro id record found recovered
    obtain ⟨known, before, sameRing, marked⟩ := find?_completed found
    -- The record was marked before, or this success marks it and its ticket is the cause.
    rcases marked recovered with already | ⟨out, rfl, tested, rfl⟩
    · obtain ⟨out, since, success, other, recovery⟩ := traced.recovered id known before already
      exact ⟨sameRing.trans out, since, success, other, recovery.append quiet⟩
    · obtain ⟨since, excluded⟩ := traced.excluded _ known before out
      refine ⟨sameRing.trans out, since, events.length, ticket, ?_⟩
      exact
        { excluded := excluded.append_of_quiet quiet
          after := excluded.since_lt
          succeeded := List.getElem?_concat_length
          testRequest := tested
          member_id := rfl
          call_lt := (granted ticket List.mem_cons_self).call_lt
          granted := (granted ticket List.mem_cons_self).append
          unjudged := by
            intro later event after atLater
            rw [getElem?_append_of_lt after] at atLater
            cases atLater }

theorem Traced.judged (traced : Traced events cluster held) (distinct : cluster.health.ids.Nodup)
    (now : Instant) (transitions : List (NodeId × Transition))
    (evaluated : (cluster.health.evaluateAll now).2 = .ok transitions) :
    Traced (events ++ [.operation (.evaluateHealth now) (.ok (.transitions transitions))])
      (cluster.judged now) held := by
  have closed (id : NodeId) (record : HealthRecord)
      (found : (cluster.judged now).health.find? id = some record) :
      ∃ known verdict, cluster.health.find? id = some known ∧
        known.Closing cluster.health.policy now record verdict ∧
        ∀ transition, verdict = some transition → (id, transition) ∈ transitions := by
    change (cluster.health.evaluateAll now).1.find? id = some record at found
    rw [HealthRegistry.find?_evaluateAll evaluated] at found
    obtain ⟨known, before, rfl⟩ := Option.map_eq_some_iff.mp found
    obtain ⟨verdict, closing, reported⟩ :=
      HealthRegistry.closing_of_evaluateAll evaluated id known before
    exact ⟨known, verdict, before, closing, reported⟩
  refine ⟨?_, ?_, fun ticket listed => (traced.granted ticket listed).append⟩
  · intro id record found out
    obtain ⟨known, verdict, before, closing, reported⟩ := closed id record found
    -- The node is excluded just now, or it was and no test request to it had succeeded.
    rcases HealthRecord.out_of_closing closing out with ⟨ratio, tripped⟩ | ⟨waiting, untested⟩
    · exact ⟨events.length,
        excludedSince_append ⟨ratio, now, transitions, rfl, reported _ tripped⟩⟩
    · obtain ⟨since, excluded⟩ := traced.excluded id known before waiting
      refine ⟨since, excluded.append ?_⟩
      rintro transition ⟨time, others, shape, changed⟩
      cases shape
      obtain ⟨same, again, turned⟩ :=
        HealthRegistry.evaluate_of_mem_transitions distinct evaluated changed
      rw [before] at again
      cases again
      rcases HealthRecord.inRing_or_recovered_of_closing turned with working | tested
      · rw [waiting] at working
        cases working
      · rw [untested] at tested
        cases tested
  · intro id record found recovered
    obtain ⟨known, verdict, before, closing, reported⟩ := closed id record found
    have forgotten := HealthRecord.recovered_of_closing closing
      (fun marked => (traced.recovered id known before marked).1)
    rw [forgotten] at recovered
    cases recovered

end Steps

/-! ### Runs -/

variable {first cluster : Cluster Client} {events : List (Event Client)}
  {held : List (Ticket Client)}

theorem sameStates_updateNodes (cluster : Cluster Client) (created : Instant)
    (nodes : List (Handle Client)) :
    SameStates cluster.health (cluster.updateNodes created nodes).1.health := by
  by_cases admitted : cluster.blueprint.Admits nodes
  · rw [updateNodes_of_admits cluster created nodes admitted]
    exact sameStates_healthFor created nodes
  · obtain ⟨failure, _, unchanged⟩ := updateNodes_of_not_admits cluster created nodes admitted
    rw [unchanged]
    exact sameStates_refl cluster.health

theorem Traced.resolve (traced : Traced events cluster held) (consistent : cluster.Consistent)
    (key : Key) (now : Instant)
    (fits : (cluster.perform (.resolve key now)).2 ≠ .error (.overflowed .sum)) :
    Traced (events ++ [.operation (.resolve key now) (cluster.perform (.resolve key now)).2])
      (cluster.perform (.resolve key now)).1
      (held ++ issued events.length (cluster.perform (.resolve key now)).2) := by
  have same : SameStates cluster.health (cluster.perform (.resolve key now)).1.health :=
    sameStates_claimProbes now cluster.health (cluster.recovery.quorum key)
  refine traced.of_sameStates same (by rintro ⟨time, answer, shape⟩; cases shape) ?_
  have inTime := consistent.inTime_of_fits key now fits
  rw [perform_resolve consistent key now inTime]
  intro ticket listed
  rcases List.mem_append.mp listed with before | new
  · exact (traced.granted ticket before).append
  · obtain ⟨member, planned, rfl⟩ := List.mem_map.mp new
    refine ⟨⟨key, now, _, List.getElem?_concat_length, planned⟩, ?_⟩
    intro tested
    dsimp only at tested ⊢
    rw [List.take_left]
    rcases List.mem_append.mp planned with working | due
    · obtain ⟨node, _, rfl⟩ := List.mem_map.mp working
      cases tested
    · obtain ⟨node, asked, rfl⟩ := List.mem_map.mp due
      have isDue := (List.mem_filter.mp asked).2
      obtain ⟨record, found, ripe⟩ :=
        Option.map_eq_some_iff.mp ((cluster.health.isDue_iff now node.id).mp isDue)
      exact traced.excluded node.id record found ((record.isDue_iff now).mp ripe).1

theorem Traced.perform (traced : Traced events cluster held) (consistent : cluster.Consistent)
    (operation : Operation Client) (direct : operation.isOutcome = false)
    (fits : (cluster.perform operation).2 ≠ .error (.overflowed .sum)) :
    Traced (events ++ [.operation operation (cluster.perform operation).2])
      (cluster.perform operation).1
      (held ++ issued events.length (cluster.perform operation).2) := by
  -- Operations that neither judge nor plan leave the records' states and the tickets as they are.
  have kept (same : SameStates cluster.health (cluster.perform operation).1.health)
      (quiet : ∀ now, operation ≠ .evaluateHealth now)
      (unplanned : ∀ key now, operation ≠ .resolve key now) :
      Traced (events ++ [.operation operation (cluster.perform operation).2])
        (cluster.perform operation).1
        (held ++ issued events.length (cluster.perform operation).2) := by
    rw [issued_perform_eq_nil cluster events.length operation unplanned, List.append_nil]
    refine traced.of_sameStates same ?_ (fun ticket listed => (traced.granted ticket listed).append)
    rintro ⟨now, answer, shape⟩
    cases shape
    exact quiet now rfl
  cases operation with
  | updateNodes created nodes =>
      exact kept (sameStates_updateNodes cluster created nodes) nofun nofun
  | rebalance =>
      refine kept ?_ nofun nofun
      change SameStates cluster.health cluster.rebalance.1.health
      rw [consistent.toGrounded.rebalance]
      exact sameStates_refl cluster.health
  | evaluateHealth now =>
      cases evaluated : (cluster.health.evaluateAll now).2 with
      | error overflow =>
          have broken := cluster.evaluateHealth_of_overflow now overflow evaluated
          exact absurd (congrArg (Except.map Reply.transitions) broken) fits
      | ok transitions =>
          rw [perform_evaluateHealth consistent now transitions evaluated]
          change Traced _ _ (held ++ [])
          rw [List.append_nil]
          exact traced.judged consistent.nodup_ids now transitions evaluated
  | node key => exact kept (sameStates_refl cluster.health) nofun nofun
  | quorum key => exact kept (sameStates_refl cluster.health) nofun nofun
  | probes key now =>
      exact kept (sameStates_claimProbes now cluster.health (cluster.recovery.quorum key))
        nofun nofun
  | recoveryQuorum key now =>
      exact kept (sameStates_claimProbes now cluster.health (cluster.recovery.quorum key))
        nofun nofun
  | resolve key now => exact traced.resolve consistent key now fits
  | record id error => cases direct
  | recordTestRequest id error => cases direct

theorem Traced.dispatch (traced : Traced [] first []) (consistent : first.Consistent)
    (run : Dispatch first events cluster held) : Traced events cluster held := by
  induction run with
  | start => exact traced
  | operate run operation direct fits ih =>
      exact ih.perform (consistent.dispatch run) operation direct fits
  | complete run ticket error holds ih => exact ih.completed ticket error holds

theorem traced_of_create {partitioner : Partitioner} {settings : Settings} {created : Instant}
    {nodes : List (Handle Client)}
    (success : create partitioner settings created nodes = .ok first) : Traced [] first [] := by
  refine ⟨?_, ?_, nofun⟩
  · intro id record found out
    rw [fresh_of_create success found] at out
    cases out
  · intro id record found recovered
    rw [fresh_of_create success found] at recovered
    cases recovered

/-- A node that an evaluation restores was last changed by an exclusion. A test request to it has
succeeded since, and since the evaluation before this one; its slot was granted in that exclusion,
or in an earlier one and the test request was still under way when the node was excluded again. -/
theorem restoration_caused_of_dispatch {partitioner : Partitioner} {settings : Settings}
    {created : Instant} {nodes : List (Handle Client)}
    (success : create partitioner settings created nodes = .ok first)
    (run : Dispatch first events cluster held) {now : Instant}
    {transitions : List (NodeId × Transition)}
    (evaluated : (cluster.evaluateHealth now).2 = .ok transitions) {id : NodeId}
    (restored : (id, .restored) ∈ transitions) :
    ∃ since success ticket, Recovery events id since success ticket ∧
      ∃ granted, ExcludedSince (events.take ticket.call) id granted ∧
        (granted = since ∨ ticket.call < since) := by
  have consistent := (consistent_of_create success).dispatch run
  have traced := (traced_of_create success).dispatch (consistent_of_create success) run
  have judged : (cluster.health.evaluateAll now).2 = .ok transitions := by
    cases outcome : (cluster.health.evaluateAll now).2 with
    | error overflow =>
        rw [cluster.evaluateHealth_of_overflow now overflow outcome] at evaluated
        cases evaluated
    | ok changes =>
        rw [consistent.evaluateHealth_eq now changes outcome] at evaluated
        exact congrArg Except.ok (Except.ok.inj evaluated)
  obtain ⟨record, found, closing⟩ := HealthRegistry.evaluate_of_mem_transitions
    (consistent.tracked.nodup_iff.mpr consistent.admits.distinct) judged restored
  obtain ⟨-, since, success, ticket, recovery⟩ := traced.recovered id record found
    (HealthRecord.recovered_of_closing_restored closing)
  exact ⟨since, success, ticket, recovery, recovery.slot⟩

/-! ### A test request that outlasts its exclusion -/

def lone : Handle Unit :=
  { serial := 0, node := Node.named "a", client := () }

def loneMember (testRequest : Bool) : Member Unit :=
  { handle := lone, testRequest := testRequest }

def loneHealth (record : HealthRecord) : HealthRegistry :=
  { policy := oneStrike.healthPolicy, entries := [("a", record)] }

def alone (record : HealthRecord) : Cluster Unit :=
  { blueprint := .ofLengths 2 2
    health := loneHealth record
    nodes := [lone]
    working := (Blueprint.ofLengths 2 2).ring (inRing (loneHealth record) [lone])
    recovery := (Blueprint.ofLengths 2 2).ring [lone] }

theorem create_alone :
    create (Blueprint.ofLengths 2 2).partitioner oneStrike 0 [lone] =
      .ok (alone (HealthRecord.fresh 5000 0)) :=
  rfl

section Alone

variable {record : HealthRecord} (key : Key) (now : Instant)

theorem quorum_alone (working : record.inRing = true) : (alone record).quorum key = [lone] := by
  have inside : inRing (loneHealth record) [lone] = [lone] := List.filter_cons_of_pos working
  have everybody : ((alone record).quorum key).Perm (inRing (loneHealth record) [lone]) :=
    (Blueprint.ofLengths 2 2).quorum_perm _ key (by decide) (by rw [inside]; decide)
  rw [inside] at everybody
  exact List.perm_singleton.mp everybody

theorem quorum_alone_of_out (out : record.inRing = false) : (alone record).quorum key = [] := by
  have outside : inRing (loneHealth record) [lone] = [] :=
    List.filter_cons_of_neg (by rw [Bool.not_eq_true]; exact out)
  have everybody : ((alone record).quorum key).Perm (inRing (loneHealth record) [lone]) :=
    (Blueprint.ofLengths 2 2).quorum_perm _ key (by decide) (by rw [outside]; decide)
  rw [outside] at everybody
  exact List.perm_nil.mp everybody

theorem recovery_quorum_alone : (alone record).recovery.quorum key = [lone] :=
  List.perm_singleton.mp
    ((Blueprint.ofLengths 2 2).quorum_perm [lone] key (by decide) (by decide))

theorem due_alone : (alone record).due key now = [lone].filter (fun _ => record.isDue now) := by
  unfold due dueAmong
  rw [recovery_quorum_alone]
  rfl

theorem inTime_alone (inTime : ¬ record.OutOfTime now) : (alone record).InTime key now := by
  apply inTime_of_entries
  intro entry member
  rw [List.mem_singleton.mp member]
  exact inTime

variable {now} in
theorem evaluateAll_alone {after : HealthRecord} {transition : Transition}
    (evaluated : record.evaluate oneStrike.healthPolicy now = (after, .ok (some transition))) :
    (alone record).health.evaluateAll now = (loneHealth after, .ok [("a", transition)]) := by
  have entries : HealthRegistry.evaluateEntries oneStrike.healthPolicy now [("a", record)] =
      ([("a", after)], .ok [("a", transition)]) := by
    simp [HealthRegistry.evaluateEntries, evaluated, Except.map]
  refine Prod.ext ?_ (HealthRegistry.evaluateAll_of_entry (congrArg Prod.snd entries))
  exact congrArg (HealthRegistry.mk oneStrike.healthPolicy) (congrArg Prod.fst entries)

section Runs

variable {events : List (Event Unit)} {held : List (Ticket Unit)}

abbrev LoneRun (events : List (Event Unit)) (record : HealthRecord)
    (held : List (Ticket Unit)) : Prop :=
  Dispatch (alone (HealthRecord.fresh 5000 0)) events (alone record) held

theorem consistent_alone (run : LoneRun events record held) : (alone record).Consistent :=
  (consistent_of_create create_alone).dispatch run

/-- A call while the node is in the ring. -/
theorem LoneRun.call (run : LoneRun events record held) (working : record.inRing = true)
    (inTime : ¬ record.OutOfTime now) :
    LoneRun (events ++ [.operation (.resolve key now) (.ok (.plan [loneMember false]))]) record
      (held ++ [{ call := events.length, member := loneMember false }]) := by
  have resolved := run.resolve (consistent_alone run) key now (inTime_alone key now inTime)
  have idle : (alone record).due key now = [] := by
    rw [due_alone key now]
    exact List.filter_cons_of_neg (by simp [HealthRecord.isDue, working])
  have planned : (alone record).plan key now = [loneMember false] := by
    unfold plan
    rw [quorum_alone key working, idle]
    rfl
  have unchanged : (alone record).granting key now = alone record := by
    unfold granting
    rw [idle]
    rfl
  rw [planned, unchanged] at resolved
  exact resolved

/-- A call while the node is excluded and due a test request. -/
theorem LoneRun.test (run : LoneRun events record held) (due : record.isDue now = true)
    (inTime : ¬ record.OutOfTime now) :
    LoneRun (events ++ [.operation (.resolve key now) (.ok (.plan [loneMember true]))])
      (record.postponed now)
      (held ++ [{ call := events.length, member := loneMember true }]) := by
  have resolved := run.resolve (consistent_alone run) key now (inTime_alone key now inTime)
  have asked : (alone record).due key now = [lone] := by
    rw [due_alone key now]
    exact List.filter_cons_of_pos due
  have planned : (alone record).plan key now = [loneMember true] := by
    unfold plan
    rw [quorum_alone_of_out key ((record.isDue_iff now).mp due).1, asked]
    rfl
  have postponed : (alone record).granting key now = alone (record.postponed now) := by
    unfold granting
    rw [asked]
    rfl
  rw [planned, postponed] at resolved
  exact resolved

theorem LoneRun.judge (run : LoneRun events record held) {after : HealthRecord}
    {transition : Transition}
    (evaluated : record.evaluate oneStrike.healthPolicy now = (after, .ok (some transition))) :
    LoneRun (events ++
      [.operation (.evaluateHealth now) (.ok (.transitions [("a", transition)]))]) after held := by
  have all := evaluateAll_alone evaluated
  have judged := run.evaluateHealth (consistent_alone run) now _ (congrArg Prod.snd all)
  unfold Cluster.judged at judged
  rw [all] at judged
  exact judged

theorem LoneRun.finish (run : LoneRun events record held) {rest : List (Ticket Unit)}
    (ticket : Ticket Unit) (error : Option CallError) (holds : held.Perm (ticket :: rest))
    {after : HealthRecord}
    (counted : (alone record).completed ticket.member error = alone after) :
    LoneRun (events ++ [.completion ticket error]) after rest := by
  have completed := run.complete ticket error holds
  rw [counted] at completed
  exact completed

end Runs

end Alone

/-- The lone node while it is excluded, with its next test request due at this reading. -/
def loneExcluded (nextProbe : UInt64) : HealthRecord :=
  { epoch := 0
    probeInterval := 5000
    successes := 0
    failures := 0
    inRing := false
    recovered := false
    nextProbe := nextProbe
    failureRatio := Float.ofNat 1 / Float.ofNat 1 }

def loneBack : HealthRecord :=
  { loneExcluded 15000 with inRing := true, failureRatio := 0.0 }

def loneTicket (call : Nat) (testRequest : Bool) : Ticket Unit :=
  { call := call, member := loneMember testRequest }

def refused : Option CallError := some (.connect "refused")

/-- Two test requests are granted; the second succeeds and restores the node, which then fails. -/
def twoTests : List (Event Unit) :=
  [.operation (.resolve [] 0) (.ok (.plan [loneMember false])),
    .completion (loneTicket 0 false) refused,
    .operation (.evaluateHealth 0)
      (.ok (.transitions [("a", .excluded (Float.ofNat 1 / Float.ofNat 1))])),
    .operation (.resolve [] (milliseconds 5000)) (.ok (.plan [loneMember true])),
    .operation (.resolve [] (milliseconds 10000)) (.ok (.plan [loneMember true])),
    .completion (loneTicket 4 true) none,
    .operation (.evaluateHealth (milliseconds 10000)) (.ok (.transitions [("a", .restored)])),
    .operation (.resolve [] (milliseconds 10000)) (.ok (.plan [loneMember false])),
    .completion (loneTicket 7 false) refused]

/-- The node is excluded again, and then the first test request succeeds. -/
def lateSuccess : List (Event Unit) :=
  twoTests ++
    [.operation (.evaluateHealth (milliseconds 10000))
      (.ok (.transitions [("a", .excluded (Float.ofNat 1 / Float.ofNat 1))]))] ++
    [.completion (loneTicket 3 true) none]

theorem run_twoTests : LoneRun twoTests loneBack.recordFailure [loneTicket 3 true] := by
  have healthy : LoneRun [] (HealthRecord.fresh 5000 0) [] := Dispatch.start
  have failed := (healthy.call [] 0 rfl (by decide)).finish (loneTicket 0 false) refused
    (List.Perm.refl _) rfl
  have excluded : LoneRun _ (loneExcluded 5000) _ := failed.judge 0 rfl
  have once : LoneRun _ (loneExcluded 10000) _ :=
    excluded.test [] (milliseconds 5000) rfl (by decide)
  have twice : LoneRun _ (loneExcluded 15000) _ :=
    once.test [] (milliseconds 10000) rfl (by decide)
  have tested := twice.finish (loneTicket 4 true) none (List.Perm.swap _ _ _) rfl
  have back : LoneRun _ loneBack _ := tested.judge (milliseconds 10000) rfl
  exact (back.call [] (milliseconds 10000) rfl (by decide)).finish (loneTicket 7 false) refused
    (List.Perm.swap _ _ _) rfl

def loneRecovered : HealthRecord :=
  { loneExcluded 15000 with recovered := true }

theorem run_lateSuccess : LoneRun lateSuccess loneRecovered [] := by
  have again : LoneRun _ (loneExcluded 15000) _ := run_twoTests.judge (milliseconds 10000) rfl
  exact again.finish (loneTicket 3 true) none (List.Perm.refl _) rfl

theorem evaluateHealth_loneRecovered :
    ((alone loneRecovered).evaluateHealth (milliseconds 10000)).2 = .ok [("a", .restored)] := by
  have judged : (alone loneRecovered).health.evaluateAll (milliseconds 10000) =
      (loneHealth loneBack, .ok [("a", .restored)]) := evaluateAll_alone rfl
  rw [(consistent_alone run_lateSuccess).evaluateHealth_eq (milliseconds 10000) _
    (congrArg Prod.snd judged)]

theorem excludedSince_lateSuccess : ExcludedSince lateSuccess "a" 9 := by
  have excluded : ExcludedSince (twoTests ++ [.operation (.evaluateHealth (milliseconds 10000))
      (.ok (.transitions [("a", .excluded (Float.ofNat 1 / Float.ofNat 1))]))]) "a"
      twoTests.length :=
    excludedSince_append ⟨_, _, _, rfl, List.mem_cons_self⟩
  refine excluded.append ?_
  rintro transition ⟨now, transitions, shape, _⟩
  cases shape

theorem call_lt_of_lateSuccess (ticket : Ticket Unit)
    (succeeded : .completion ticket none ∈ lateSuccess) : ticket.call < 9 := by
  simp only [lateSuccess, twoTests, refused, List.mem_append, List.mem_cons, List.not_mem_nil,
    Event.completion.injEq, reduceCtorEq, and_false, and_true, or_false, false_or] at succeeded
  rcases succeeded with rfl | rfl
  · decide
  · decide

/-- The node is restored although no slot was granted to it since it was last excluded. -/
theorem restored_by_earlier_exclusion :
    create (Blueprint.ofLengths 2 2).partitioner oneStrike 0 [lone] =
        .ok (alone (HealthRecord.fresh 5000 0)) ∧
      ∃ cluster held, Dispatch (alone (HealthRecord.fresh 5000 0)) lateSuccess cluster held ∧
        (cluster.evaluateHealth (milliseconds 10000)).2 = .ok [("a", .restored)] ∧
        ExcludedSince lateSuccess "a" 9 ∧
        ¬ ∃ ticket, Event.completion ticket none ∈ lateSuccess ∧
          ticket.member.handle.id = "a" ∧ ticket.member.testRequest = true ∧
          9 < ticket.call := by
  refine ⟨create_alone, _, _, run_lateSuccess, evaluateHealth_loneRecovered,
    excludedSince_lateSuccess, ?_⟩
  rintro ⟨ticket, succeeded, _, _, later⟩
  have earlier := call_lt_of_lateSuccess ticket succeeded
  omega

theorem restoration_caused_by_late_success :
    create (Blueprint.ofLengths 2 2).partitioner oneStrike 0 [lone] =
        .ok (alone (HealthRecord.fresh 5000 0)) ∧
      Dispatch (alone (HealthRecord.fresh 5000 0)) lateSuccess (alone loneRecovered) [] ∧
      ((alone loneRecovered).evaluateHealth (milliseconds 10000)).2 = .ok [("a", .restored)] ∧
      ∃ success ticket, Recovery lateSuccess "a" 9 success ticket ∧ ticket.call < 9 := by
  refine ⟨create_alone, run_lateSuccess, evaluateHealth_loneRecovered, ?_⟩
  obtain ⟨since, success, ticket, recovery, -⟩ := restoration_caused_of_dispatch create_alone
    run_lateSuccess evaluateHealth_loneRecovered List.mem_cons_self
  have last : since = 9 := recovery.excluded.unique excludedSince_lateSuccess
  subst last
  exact ⟨success, ticket, recovery,
    call_lt_of_lateSuccess ticket (List.mem_of_getElem? recovery.succeeded)⟩

end Cluster

end QuorumRouting
