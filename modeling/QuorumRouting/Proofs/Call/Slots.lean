import QuorumRouting.Proofs.Call.Execution
import QuorumRouting.Proofs.Cluster.Recovery

/-!
What becomes of the test requests that a plan was granted. Calls to all members at once use every
one of them: its node is called once, the end of that call is accounted for once, as that of a test
request, and a node that answered is restored by the next evaluation, whatever the other members
did. Calls one after another use those that they come to: a grant behind the first member that
answers is spent without a call.
-/

set_option autoImplicit false

namespace QuorumRouting

variable {Client : Type}

def Ending.outcome? {Value : Type} : Ending Value → Option (Option CallError)
  | .value _ => some none
  | .error cause => some (some cause)
  | .crash _ => none

/-- The registry after the calls and their reports hold the outcome of one test request to the node,
or of no call to it when there is none. -/
structure Accounted (context : CallContext) (id : NodeId) (outcome : Option (Option CallError))
    (before after : HealthRegistry) (reports : List Report) : Prop where
  reported : reports.filter (fun report => report.node = id) =
    (outcome.map (fun error =>
      ({ node := id, testRequest := true, error := error,
         recorded := (before.recordTestRequest id error).2, trace := context.trace } :
        Report))).toList
  recorded : after.find? id =
    (outcome.elim before (fun error => (before.recordTestRequest id error).1)).find? id

variable {context : CallContext} {id : NodeId} {outcome : Option (Option CallError)}

theorem accounted_nothing (context : CallContext) (id : NodeId) (health : HealthRegistry) :
    Accounted context id none health health [] :=
  { reported := rfl
    recorded := rfl }

/-- The outcome of a call to another node is neither here nor there. -/
theorem Accounted.of_other {before after : HealthRegistry} {reports : List Report}
    {member : Member Client} {error : Option CallError} (other : member.handle.id ≠ id)
    (accounted : Accounted context id outcome (member.account context before error).1 after
      reports) :
    Accounted context id outcome before after
      ((member.account context before error).2 :: reports) := by
  have elsewhere :
      decide ((member.account context before error).2.node = id) = false :=
    decide_eq_false other
  constructor
  · rw [List.filter_cons, if_neg (ne_true_of_eq_false elsewhere)]
    exact accounted.reported
  · rw [accounted.recorded]
    have untouched : (member.account context before error).1.find? id = before.find? id :=
      (HealthRegistry.find?_account before member.testRequest member.handle.id id error).trans
        (if_neg (Ne.symm other))
    cases outcome with
    | none => exact untouched
    | some told =>
        change ((HealthRegistry.account _ true id told).1).find? id =
          (before.account true id told).1.find? id
        rw [HealthRegistry.find?_account, HealthRegistry.find?_account, if_pos rfl, if_pos rfl,
          untouched]
        rfl

theorem Accounted.of_test {before after : HealthRegistry} {reports : List Report}
    {member : Member Client} (test : member.testRequest = true) (error : Option CallError)
    (silent : Accounted context member.handle.id none (member.account context before error).1 after
      reports) :
    Accounted context member.handle.id (some error) before after
      ((member.account context before error).2 :: reports) := by
  obtain ⟨handle, testRequest⟩ := member
  subst test
  have here : decide ((Member.account ⟨handle, true⟩ context before error).2.node = handle.id) =
      true :=
    decide_eq_true rfl
  constructor
  · rw [List.filter_cons, if_pos here, silent.reported]
    rfl
  · exact silent.recorded

namespace Concurrent

variable {Value : Type}

theorem settle_cons_of_outcome (context : CallContext) (health : HealthRegistry)
    {completion : Completion Client Value} {error : Option CallError}
    (rest : List (Completion Client Value)) (told : completion.ending.outcome? = some error) :
    settle context health (completion :: rest) =
      ((settle context (completion.member.account context health error).1 rest).1,
        (completion.member.account context health error).2 ::
          (settle context (completion.member.account context health error).1 rest).2) := by
  conv => lhs; unfold settle
  cases ended : completion.ending with
  | value value =>
      rw [ended] at told
      obtain rfl : none = error := Option.some.inj told
      rfl
  | error cause =>
      rw [ended] at told
      obtain rfl : some cause = error := Option.some.inj told
      rfl
  | crash =>
      rw [ended] at told
      cases told

theorem not_heard_of_outcome {ending : Ending Value} (silent : ending.outcome? = none) :
    ¬ ending.Heard := by
  cases ending with
  | crash cause => exact fun heard => heard cause rfl
  | value value => cases silent
  | error cause => cases silent

def Completion.node (completion : Completion Client Value) : NodeId :=
  completion.member.handle.id

theorem accounted_settle_of_absent (health : HealthRegistry)
    (completions : List (Completion Client Value))
    (absent : id ∉ completions.map Completion.node) :
    Accounted context id none health (settle context health completions).1
      (settle context health completions).2 := by
  induction completions generalizing health with
  | nil => exact accounted_nothing context id health
  | cons completion rest ih =>
      rw [List.map_cons, List.mem_cons, not_or] at absent
      cases told : completion.ending.outcome? with
      | none =>
          rw [settle_cons_of_not_heard context health rest (not_heard_of_outcome told)]
          exact ih health absent.2
      | some error =>
          rw [settle_cons_of_outcome context health rest told]
          exact (ih _ absent.2).of_other (Ne.symm absent.1)

/-- A node that one completion is about has the outcome of that one accounted for. -/
theorem accounted_settle (health : HealthRegistry) (completions : List (Completion Client Value))
    (distinct : (completions.map Completion.node).Nodup) {completion : Completion Client Value}
    (listed : completion ∈ completions) (test : completion.member.testRequest = true) :
    Accounted context completion.node completion.ending.outcome? health
      (settle context health completions).1 (settle context health completions).2 := by
  induction completions generalizing health with
  | nil => cases listed
  | cons first rest ih =>
      rw [List.map_cons, List.nodup_cons] at distinct
      rcases List.mem_cons.mp listed with rfl | later
      · cases told : completion.ending.outcome? with
        | none =>
            rw [settle_cons_of_not_heard context health rest (not_heard_of_outcome told)]
            exact accounted_settle_of_absent health rest distinct.1
        | some error =>
            rw [settle_cons_of_outcome context health rest told]
            exact (accounted_settle_of_absent _ rest distinct.1).of_test test error
      · have other : first.node ≠ completion.node := fun same =>
          distinct.1 (same ▸ List.mem_map_of_mem later)
        cases told : first.ending.outcome? with
        | none =>
            rw [settle_cons_of_not_heard context health rest (not_heard_of_outcome told)]
            exact ih health distinct.2 later
        | some error =>
            rw [settle_cons_of_outcome context health rest told]
            exact (ih _ distinct.2 later).of_other other

theorem member_complete (performance : Performance Value) (maxWait : Nat)
    (member : Member Client) : (performance.complete maxWait member).member = member := by
  unfold Performance.complete
  split
  · rfl
  · split
    · rfl
    · rfl

def Arrivals (perform : Handle Client → Performance Value) (maxWait : Nat) (plan : Plan Client)
    (completions : List (Completion Client Value)) : Prop :=
  completions.Perm (plan.map (fun member => (perform member.handle).complete maxWait member))

theorem arrivals_schedule (perform : Handle Client → Performance Value) (maxWait : Nat)
    (plan : Plan Client) : Arrivals perform maxWait plan (schedule perform maxWait plan) :=
  List.mergeSort_perm _ _

theorem accounted_of_arrivals (context : CallContext)
    {perform : Handle Client → Performance Value} {maxWait : Nat} {plan : Plan Client}
    {completions : List (Completion Client Value)}
    (arrivals : Arrivals perform maxWait plan completions) (distinct : plan.ids.Nodup)
    {member : Member Client} (listed : member ∈ plan) (test : member.testRequest = true)
    (health : HealthRegistry) :
    let completion := (perform member.handle).complete maxWait member
    let outcome := conclude context health completions
    completions.filter (fun other => other.node = member.handle.id) = [completion] ∧
      Accounted context member.handle.id completion.ending.outcome? health outcome.health
        outcome.reports := by
  have same := member_complete (perform member.handle) maxWait member
  have named : ((perform member.handle).complete maxWait member).node = member.handle.id :=
    congrArg (fun member => member.handle.id) same
  have once : (completions.map Completion.node).Nodup := by
    refine (arrivals.map Completion.node).nodup_iff.mpr ?_
    rw [List.map_map]
    refine (List.map_congr_left fun member _ => ?_) ▸ distinct
    exact (congrArg (fun member => member.handle.id) (member_complete _ maxWait member)).symm
  have completed := arrivals.mem_iff.mpr (List.mem_map_of_mem listed)
  dsimp only
  rw [← named]
  constructor
  · exact filter_eq_singleton Completion.node once completed
  · exact accounted_settle health completions once completed (same.symm ▸ test)

end Concurrent

namespace Sequential

variable {World Connection Value : Type}

/-- The transport that also keeps a list of the nodes that it was asked to connect to. -/
def Transport.noting (transport : Transport World Client Connection Value) :
    Transport (World × List (Handle Client)) Client Connection Value :=
  { connect := fun noted handle maxWait =>
      let (connected, result) := transport.connect noted.1 handle maxWait
      ((connected, noted.2 ++ [handle]), result)
    operate := fun noted connection context =>
      let (after, ending) := transport.operate noted.1 connection context
      ((after, noted.2), ending) }

variable (transport : Transport World Client Connection Value) (maxWait : Nat)
  (context : CallContext)

/-- The calls to the members of a plan when they are tried in order, and how these calls ended; when
that was is left out. -/
def calls : Plan Client → World → List (Concurrent.Completion Client Value)
  | [], _ => []
  | member :: rest, world =>
      match attempt transport maxWait context world member.handle with
      | (after, .error error) =>
          { member := member, time := 0, ending := .error error } :: calls rest after
      | (_, ending) => [{ member := member, time := 0, ending := ending }]

/-- Members that are tried in order are accounted for like members that complete in this order. -/
theorem tryMembers_eq_settle (attempts : Nat) (last : CallError) (plan : Plan Client)
    (world : World) (health : HealthRegistry) :
    let outcome := tryMembers transport maxWait context attempts last plan world health
    (outcome.health, outcome.reports) =
      Concurrent.settle context health (calls transport maxWait context plan world) := by
  induction plan generalizing last world health with
  | nil => rfl
  | cons member rest ih =>
      unfold tryMembers calls
      cases tried : attempt transport maxWait context world member.handle with
      | mk after ending =>
          cases ending with
          | value value => rfl
          | crash => rfl
          | error error =>
              dsimp only
              rw [Concurrent.settle_cons_of_outcome context health _ rfl, ← ih error after]

theorem attempt_noting (world : World) (noted : List (Handle Client)) (handle : Handle Client) :
    attempt transport.noting maxWait context (world, noted) handle =
      (((attempt transport maxWait context world handle).1, noted ++ [handle]),
        (attempt transport maxWait context world handle).2) := by
  unfold attempt Transport.noting
  dsimp only
  cases (transport.connect world handle maxWait).2.2 with
  | error error => rfl
  | ok connection =>
      dsimp only
      split
      · rfl
      · rfl

/-- Keeping the list changes nothing, and the nodes on it are those of the calls. -/
theorem tryMembers_noting (attempts : Nat) (last : CallError) (plan : Plan Client)
    (world : World) (noted : List (Handle Client)) (health : HealthRegistry) :
    let outcome := tryMembers transport maxWait context attempts last plan world health
    tryMembers transport.noting maxWait context attempts last plan (world, noted) health =
      { world := (outcome.world, noted ++ (calls transport maxWait context plan world).map
          (fun completion => completion.member.handle))
        health := outcome.health
        reports := outcome.reports
        answer := outcome.answer } := by
  induction plan generalizing last world noted health with
  | nil =>
      unfold tryMembers calls
      rw [List.map_nil, List.append_nil]
  | cons member rest ih =>
      unfold tryMembers calls
      rw [attempt_noting]
      cases tried : attempt transport maxWait context world member.handle with
      | mk after ending =>
          cases ending with
          | value value => rfl
          | crash => rfl
          | error error =>
              dsimp only
              rw [ih, List.append_assoc]
              rfl

theorem run_noting (plan : Plan Client) (world : World) (health : HealthRegistry) :
    let outcome := run transport maxWait context plan world health
    run transport.noting maxWait context plan (world, []) health =
      { world := (outcome.world, (calls transport maxWait context plan world).map
          (fun completion => completion.member.handle))
        health := outcome.health
        reports := outcome.reports
        answer := outcome.answer } := by
  cases plan with
  | nil => rfl
  | cons member rest => exact tryMembers_noting transport maxWait context _ _ _ world [] health

theorem run_eq_settle (plan : Plan Client) (world : World) (health : HealthRegistry) :
    let outcome := run transport maxWait context plan world health
    let settled := Concurrent.settle context health (calls transport maxWait context plan world)
    outcome.health = settled.1 ∧ outcome.reports = settled.2 := by
  cases plan with
  | nil => exact ⟨rfl, rfl⟩
  | cons member rest =>
      exact Prod.ext_iff.mp (tryMembers_eq_settle transport maxWait context _ _ _ world health)

theorem calls_sublist (plan : Plan Client) (world : World) :
    ((calls transport maxWait context plan world).map Concurrent.Completion.member).Sublist
      plan := by
  induction plan generalizing world with
  | nil => exact List.Sublist.slnil
  | cons member rest ih =>
      unfold calls
      split
      · exact (ih _).cons_cons member
      · exact (List.nil_sublist rest).cons_cons member

theorem calls_append (front others : Plan Client) (world : World) :
    calls transport maxWait context (front ++ others) world =
      calls transport maxWait context front world ++
        ((exhaust transport maxWait context front world).elim []
          (calls transport maxWait context others)) := by
  induction front generalizing world with
  | nil => rfl
  | cons member rest ih =>
      rw [List.cons_append]
      unfold calls exhaust
      cases tried : attempt transport maxWait context world member.handle with
      | mk after ending =>
          cases ending with
          | value value => rfl
          | crash => rfl
          | error error => exact congrArg (List.cons _) (ih after)

section

variable {transport maxWait context} {front rest : Plan Client} {member : Member Client}
  {world : World}

theorem accounted_run_of_unreached (distinct : (Plan.ids (front ++ member :: rest)).Nodup)
    (unreached : exhaust transport maxWait context front world = none)
    (health : HealthRegistry) :
    let plan := front ++ member :: rest
    let outcome := run transport maxWait context plan world health
    ((run transport.noting maxWait context plan (world, []) health).world.2.filter
        (fun handle => handle.id = member.handle.id) = []) ∧
      Accounted context member.handle.id none health outcome.health outcome.reports := by
  have called : calls transport maxWait context (front ++ member :: rest) world =
      calls transport maxWait context front world := by
    rw [calls_append, unreached]
    exact List.append_nil _
  have absent : member.handle.id ∉
      (calls transport maxWait context front world).map Concurrent.Completion.node := by
    intro present
    obtain ⟨completion, listed, same⟩ := List.mem_map.mp present
    have early := (calls_sublist transport maxWait context front world).subset
      (List.mem_map_of_mem listed)
    rw [Plan.ids_append, List.nodup_append] at distinct
    exact distinct.2.2 _ (List.mem_map_of_mem early) _ List.mem_cons_self same
  obtain ⟨settled, reported⟩ :=
    run_eq_settle transport maxWait context (front ++ member :: rest) world health
  rw [called] at settled reported
  dsimp only
  constructor
  · rw [run_noting, called]
    apply filter_eq_nil_of_absent
    rw [List.map_map]
    exact absent
  · rw [settled, reported]
    exact Concurrent.accounted_settle_of_absent health _ absent

theorem mem_calls_of_reached (member : Member Client) (rest : Plan Client) {reached : World}
    (exhausted : exhaust transport maxWait context front world = some reached) :
    { member := member, time := 0
      ending := (attempt transport maxWait context reached member.handle).2 } ∈
      calls transport maxWait context (front ++ member :: rest) world := by
  rw [calls_append, exhausted]
  apply List.mem_append_right
  dsimp only [Option.elim]
  unfold calls
  split
  · rename_i after error tried
    rw [tried]
    exact List.mem_cons_self
  · rename_i after ending other tried
    rw [tried]
    exact List.mem_cons_self

theorem accounted_run_of_reached (distinct : (Plan.ids (front ++ member :: rest)).Nodup)
    (test : member.testRequest = true) {reached : World}
    (exhausted : exhaust transport maxWait context front world = some reached)
    (health : HealthRegistry) :
    let plan := front ++ member :: rest
    let outcome := run transport maxWait context plan world health
    ((run transport.noting maxWait context plan (world, []) health).world.2.filter
        (fun handle => handle.id = member.handle.id) = [member.handle]) ∧
      Accounted context member.handle.id
        (attempt transport maxWait context reached member.handle).2.outcome? health
        outcome.health outcome.reports := by
  have called := mem_calls_of_reached member rest exhausted
  have once : ((calls transport maxWait context (front ++ member :: rest) world).map
      Concurrent.Completion.node).Nodup := by
    have early := (calls_sublist transport maxWait context (front ++ member :: rest)
      world).map (fun member => member.handle.id)
    rw [List.map_map] at early
    exact distinct.sublist early
  obtain ⟨settled, reported⟩ :=
    run_eq_settle transport maxWait context (front ++ member :: rest) world health
  dsimp only
  constructor
  · rw [run_noting]
    apply filter_eq_singleton Handle.id
    · rw [List.map_map]
      exact once
    · exact List.mem_map_of_mem called
  · rw [settled, reported]
    exact Concurrent.accounted_settle health _ once called test

end

end Sequential

namespace Cluster

variable {cluster : Cluster Client}

theorem Consistent.settle {Value : Type} (consistent : cluster.Consistent)
    (completions : List (Concurrent.Completion Client Value)) :
    ({ cluster with health := (Concurrent.settle context cluster.health completions).1 } :
      Cluster Client).Consistent := by
  induction completions generalizing cluster with
  | nil => exact consistent
  | cons completion rest ih =>
      cases told : completion.ending.outcome? with
      | none =>
          rw [Concurrent.settle_cons_of_not_heard context cluster.health rest
            (Concurrent.not_heard_of_outcome told)]
          exact ih consistent
      | some error =>
          rw [Concurrent.settle_cons_of_outcome context cluster.health rest told]
          exact ih (consistent.account completion.member.testRequest completion.member.handle.id
            error)

/-- Calls to members leave what `Accounted` says of the node, and if it answered a test request, the
next evaluation restores it. -/
structure Served (claimed : Cluster Client) (context : CallContext) (id : NodeId)
    (outcome : Option (Option CallError)) (health : HealthRegistry) (reports : List Report) :
    Prop where
  accounted : Accounted context id outcome claimed.health health reports
  restored : outcome = some none → RestoresNext { claimed with health := health } id

theorem Consistent.served {health : HealthRegistry} {reports : List Report}
    (consistent : ({ cluster with health := health } : Cluster Client).Consistent)
    (out : cluster.health.isInRing id = false)
    (accounted : Accounted context id outcome cluster.health health reports) :
    cluster.Served context id outcome health reports := by
  refine ⟨accounted, ?_⟩
  rintro rfl
  apply consistent.restoresNext
  obtain ⟨record, found, marked⟩ := cluster.health.isRecovering_account id out
  exact ⟨record, accounted.recorded.trans found, marked⟩

theorem filter_testRequest_plan (cluster : Cluster Client) (key : Key) (now : Instant) :
    (cluster.plan key now).filter Member.testRequest = Plan.tests (cluster.due key now) := by
  have untested : (Plan.ofHandles (cluster.quorum key)).filter Member.testRequest = [] := by
    apply List.filter_eq_nil_iff.mpr
    intro member listed
    obtain ⟨handle, -, rfl⟩ := List.mem_map.mp listed
    exact Bool.false_ne_true
  have tested : (Plan.tests (cluster.due key now)).filter Member.testRequest =
      Plan.tests (cluster.due key now) := by
    apply List.filter_eq_self.mpr
    intro member listed
    obtain ⟨handle, -, rfl⟩ := List.mem_map.mp listed
    rfl
  unfold plan
  rw [List.filter_append, untested, tested]
  rfl

theorem Consistent.isInRing_granting (consistent : cluster.Consistent) {key : Key} {now : Instant}
    (inTime : cluster.InTime key now) {node : Handle Client} (due : node ∈ cluster.due key now) :
    (cluster.granting key now).health.isInRing node.id = false := by
  have same : (cluster.probes key now).1.health.isInRing node.id =
      cluster.health.isInRing node.id :=
    isInRing_claimProbes now cluster.health _ node.id
  rw [consistent.probes_eq key now inTime] at same
  exact same.trans (cluster.health.isInRing_of_isDue now node.id (List.mem_filter.mp due).2)

/-- Every test request that a plan was granted is in the plan. When all members are called at once,
each of these requests is made and accounted for once, in whatever order the calls end. When members
are tried in order, this happens to each request before which every member has failed, and the
others are not made. A node that answered its request is restored by the next evaluation. -/
theorem slots_used_of_run {partitioner : Partitioner} {settings : Settings} {created : Instant}
    {nodes : List (Handle Client)} {first : Cluster Client}
    {events : List (Operation Client × Answer Client)}
    (success : create partitioner settings created nodes = .ok first)
    (run : Run first events cluster) (key : Key) (now : Instant)
    (inTime : cluster.InTime key now) :
    ∃ claimed plan slots, cluster.probes key now = (claimed, .ok slots) ∧
      Plan.resolve cluster key now = (claimed, .ok plan) ∧
      plan.filter Member.testRequest = Plan.tests slots ∧
      (∀ (Value : Type) (context : CallContext) (maxWait : Nat)
        (perform : Handle Client → Concurrent.Performance Value)
        (completions : List (Concurrent.Completion Client Value)),
        Concurrent.Arrivals perform maxWait plan completions →
          let outcome := Concurrent.conclude context claimed.health completions
          ∀ node, node ∈ slots →
            let call := (perform node).complete maxWait { handle := node, testRequest := true }
            completions.filter (fun completion => completion.node = node.id) = [call] ∧
              claimed.Served context node.id call.ending.outcome? outcome.health
                outcome.reports) ∧
      ∀ (World Connection Value : Type)
        (transport : Sequential.Transport World Client Connection Value) (maxWait : Nat)
        (context : CallContext) (world : World),
        let outcome := Sequential.run transport maxWait context plan world claimed.health
        let called := (Sequential.run transport.noting maxWait context plan (world, [])
          claimed.health).world.2
        ∀ front node rest, plan = front ++ { handle := node, testRequest := true } :: rest →
          (Sequential.exhaust transport maxWait context front world = none →
            called.filter (fun handle => handle.id = node.id) = [] ∧
              claimed.Served context node.id none outcome.health outcome.reports) ∧
          ∀ reached, Sequential.exhaust transport maxWait context front world = some reached →
            let ending := (Sequential.attempt transport maxWait context reached node).2
            called.filter (fun handle => handle.id = node.id) = [node] ∧
              claimed.Served context node.id ending.outcome? outcome.health outcome.reports := by
  have consistent := (consistent_of_create success).run run
  have distinct := consistent.nodup_ids_plan key now
  have claimed : (cluster.granting key now).Consistent := by
    have probed := consistent.probes key now
    rw [consistent.probes_eq key now inTime] at probed
    exact probed
  have tested := filter_testRequest_plan cluster key now
  refine ⟨cluster.granting key now, cluster.plan key now, cluster.due key now,
    consistent.probes_eq key now inTime, consistent.resolve_eq key now inTime, tested, ?_, ?_⟩
  · intro Value context maxWait perform completions arrivals outcome node due
    have listed : { handle := node, testRequest := true } ∈ cluster.plan key now :=
      List.mem_append_right _ (List.mem_map_of_mem due)
    obtain ⟨once, accounted⟩ := Concurrent.accounted_of_arrivals context arrivals distinct listed
      rfl (cluster.granting key now).health
    exact ⟨once, (claimed.settle completions).served (consistent.isInRing_granting inTime due)
      accounted⟩
  · intro World Connection Value transport maxWait context world outcome called front node rest
      shape
    have due : node ∈ cluster.due key now := by
      have present : { handle := node, testRequest := true } ∈
          (cluster.plan key now).filter Member.testRequest :=
        List.mem_filter.mpr ⟨shape ▸ List.mem_append_right _ List.mem_cons_self, rfl⟩
      rw [tested] at present
      obtain ⟨handle, listed, same⟩ := List.mem_map.mp present
      have named : handle = node := congrArg Member.handle same
      exact named ▸ listed
    have out := consistent.isInRing_granting inTime due
    have settled : ({ cluster.granting key now with health := outcome.health } :
        Cluster Client).Consistent := by
      rw [(Sequential.run_eq_settle transport maxWait context _ world _).1]
      exact claimed.settle _
    rw [shape] at distinct
    constructor
    · intro unreached
      obtain ⟨uncalled, accounted⟩ := Sequential.accounted_run_of_unreached distinct unreached
        (cluster.granting key now).health
      rw [← shape] at uncalled accounted
      exact ⟨uncalled, settled.served out accounted⟩
    · intro reached exhausted
      obtain ⟨once, accounted⟩ := Sequential.accounted_run_of_reached distinct rfl exhausted
        (cluster.granting key now).health
      rw [← shape] at once accounted
      exact ⟨once, settled.served out accounted⟩

/-- The plan of the halved pair has its working node before its excluded one. -/
theorem plan_halved (key : Key) : ∃ working tested, working.id = "c" ∧ tested.id = "ab" ∧
    halved.due key (milliseconds 5000) = [tested] ∧
    halved.plan key (milliseconds 5000) =
      [{ handle := working, testRequest := false }, { handle := tested, testRequest := true }] := by
  obtain ⟨working, quorate, named⟩ := List.map_eq_singleton_iff.mp (quorum_halved key)
  obtain ⟨tested, waiting, tagged⟩ := List.map_eq_singleton_iff.mp (due_halved key)
  refine ⟨working, tested, named, tagged, waiting, ?_⟩
  unfold plan
  rw [quorate, waiting]
  rfl

def answering (refused : List NodeId) : Sequential.Transport Unit Unit NodeId NodeId :=
  { connect := fun _ handle _ =>
      ((), 0, if handle.id ∈ refused then .error (.connect "refused") else .ok handle.id)
    operate := fun _ id _ => ((), .value id) }

theorem attempt_answering {refused : List NodeId} (handle : Handle Unit)
    (free : handle.id ∉ refused) :
    Sequential.attempt (answering refused) 500 { trace := none } () handle =
      ((), .value handle.id) := by
  unfold Sequential.attempt answering
  dsimp only
  rw [if_neg free]
  rfl

theorem attempt_refused {refused : List NodeId} {handle : Handle Unit}
    (listed : handle.id ∈ refused) :
    Sequential.attempt (answering refused) 500 { trace := none } () handle =
      ((), .error (.connect "refused")) := by
  unfold Sequential.attempt answering
  dsimp only
  rw [if_pos listed]

/-- At once or in turn: the excluded node is called and restored, be it that the other node answers
as well or that it has refused before. -/
theorem slots_used_by_halved :
    create (Blueprint.ofLengths 2 2).partitioner oneStrike 0 (Handle.named 0 ["ab", "c"]) =
        .ok pair ∧
      ∃ events, Run pair events halved ∧ ∀ key, halved.InTime key (milliseconds 5000) ∧
        ∃ claimed plan, Plan.resolve halved key (milliseconds 5000) = (claimed, .ok plan) ∧
          RestoresNext { claimed with
            health := (Concurrent.run (fun handle => Concurrent.Performance.mk 0 none 0
              (.value handle.id)) 500 { trace := none } plan claimed.health).health } "ab" ∧
          RestoresNext { claimed with
            health := (Sequential.run (answering ["c"]) 500 { trace := none } plan ()
              claimed.health).health } "ab" := by
  obtain ⟨events, run⟩ := run_halved
  refine ⟨create_pair, events, run, fun key => ⟨inTime_halved key, ?_⟩⟩
  have consistent := (consistent_of_create create_pair).run run
  obtain ⟨claimed, plan, slots, probed, resolved, -, atOnce, inTurn⟩ :=
    slots_used_of_run create_pair run key (milliseconds 5000) (inTime_halved key)
  obtain ⟨working, tested, named, tagged, waiting, planned⟩ := plan_halved key
  rw [consistent.resolve_eq key (milliseconds 5000) (inTime_halved key)] at resolved
  rw [consistent.probes_eq key (milliseconds 5000) (inTime_halved key)] at probed
  obtain ⟨rfl, same⟩ := Prod.mk.inj resolved
  obtain rfl := Except.ok.inj same
  obtain rfl := Except.ok.inj (Prod.mk.inj probed).2
  refine ⟨_, _, consistent.resolve_eq key (milliseconds 5000) (inTime_halved key), ?_, ?_⟩
  · rw [← tagged]
    exact (atOnce NodeId { trace := none } 500 _ _ (Concurrent.arrivals_schedule _ 500 _) tested
      (waiting ▸ List.mem_cons_self)).2.restored rfl
  · have refused : Sequential.exhaust (answering ["c"]) 500 { trace := none }
        [{ handle := working, testRequest := false }] () = some () := by
      unfold Sequential.exhaust
      rw [attempt_refused (named ▸ List.mem_cons_self)]
      rfl
    have served := ((inTurn Unit NodeId NodeId (answering ["c"]) 500 { trace := none } ()
      [{ handle := working, testRequest := false }] tested [] planned).2 () refused).2.restored
    rw [attempt_answering tested (by rw [tagged]; decide)] at served
    rw [← tagged]
    exact served rfl

def spared : HealthRegistry :=
  ((halved.health.postpone (milliseconds 5000) ["ab"]).account false "c" none).1

theorem evaluateAll_spared : (spared.evaluateAll (milliseconds 5000)).2 = .ok [] := by
  have found : (HealthRegistry.evaluateEntries spared.policy (milliseconds 5000)
      spared.entries).2 = .ok [] := rfl
  exact (HealthRegistry.evaluateAll_of_entries found).trans (congrArg Except.ok List.mergeSort_nil)

/-- All nodes answer; the excluded one is granted a test request, is not called, and stays out. -/
theorem slot_spent_behind_success :
    create (Blueprint.ofLengths 2 2).partitioner oneStrike 0 (Handle.named 0 ["ab", "c"]) =
        .ok pair ∧
      ∃ events, Run pair events halved ∧ ∃ claimed plan slots,
        halved.probes (Key.ofText "k") (milliseconds 5000) = (claimed, .ok slots) ∧
          Plan.resolve halved (Key.ofText "k") (milliseconds 5000) = (claimed, .ok plan) ∧
          slots.map Handle.id = ["ab"] ∧
          (∀ handle, (Sequential.attempt (answering []) 500 { trace := none } () handle).2 =
            .value handle.id) ∧
          let outcome := Sequential.run (answering []).noting 500 { trace := none } plan ((), [])
            claimed.health
          outcome.world.2.map Handle.id = ["c"] ∧
            outcome.reports.map (fun report => (report.node, report.testRequest)) =
              [("c", false)] ∧
            (evaluateHealth { claimed with health := outcome.health } (milliseconds 5000)).2 =
              .ok [] := by
  obtain ⟨events, run⟩ := run_halved
  have consistent := (consistent_of_create create_pair).run run
  have inTime := inTime_halved (Key.ofText "k")
  have waiting := due_halved (Key.ofText "k")
  have answered (handle : Handle Unit) := attempt_answering handle List.not_mem_nil
  obtain ⟨working, tested, named, -, -, planned⟩ := plan_halved (Key.ofText "k")
  refine ⟨create_pair, events, run, _, _, _, consistent.probes_eq _ (milliseconds 5000) inTime,
    consistent.resolve_eq _ (milliseconds 5000) inTime, waiting, ?_, ?_⟩
  · intro handle
    rw [answered handle]
  · have called : Sequential.calls (answering []) 500 { trace := none }
        (halved.plan (Key.ofText "k") (milliseconds 5000)) () =
          [{ member := { handle := working, testRequest := false }, time := 0
             ending := .value working.id }] := by
      rw [planned]
      unfold Sequential.calls
      rw [answered working]
    obtain ⟨settled, reported⟩ := Sequential.run_eq_settle (answering []) 500 { trace := none }
      (halved.plan (Key.ofText "k") (milliseconds 5000)) ()
      (halved.granting (Key.ofText "k") (milliseconds 5000)).health
    rw [called] at settled reported
    have accounted : (Concurrent.settle { trace := none }
        (halved.granting (Key.ofText "k") (milliseconds 5000)).health
        [({ member := { handle := working, testRequest := false }, time := 0
            ending := .value working.id } : Concurrent.Completion Unit NodeId)]).1 = spared := by
      unfold granting
      rw [waiting, Concurrent.settle_cons_of_outcome _ _ _ rfl]
      unfold spared
      rw [← named]
      rfl
    dsimp only
    rw [Sequential.run_noting, called, settled, reported, accounted]
    refine ⟨congrArg (fun id => [id]) named, congrArg (fun id => [(id, false)]) named, ?_⟩
    unfold evaluateHealth
    dsimp only
    rw [evaluateAll_spared]
    rfl

end Cluster

end QuorumRouting
