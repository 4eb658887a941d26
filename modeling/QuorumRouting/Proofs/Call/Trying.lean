import QuorumRouting.Proofs.Call.Conclusion

/-!
What a call comes to that tries the members of its plan one after another. It gets as far as the
first member that succeeds, or to the end of the plan, and no farther: only the members that it came
to are contacted, accounted for and reported. The operation is run for those of them whose
connection was there in time.
-/

set_option autoImplicit false

namespace QuorumRouting.Sequential

open Concurrent (Completion)

variable {World Client Connection Value : Type}

inductive Contact (Client Connection Value : Type) where
  | connected (handle : Handle Client) (waited : Nat) (connection : Except CallError Connection)
  | operated (connection : Connection) (ending : Ending Value)

def Transport.logging (transport : Transport World Client Connection Value) :
    Transport (World × List (Contact Client Connection Value)) Client Connection Value :=
  { connect := fun logged handle maxWait =>
      let (connected, waited, connection) := transport.connect logged.1 handle maxWait
      ((connected, logged.2 ++ [.connected handle waited connection]), waited, connection)
    operate := fun logged connection context =>
      let (after, ending) := transport.operate logged.1 connection context
      ((after, logged.2 ++ [.operated connection ending]), ending) }

/-- What an attempt on a node asks for, and how the attempt ends. The operation is run over a
connection that was there in time, and over no other. -/
inductive Contacted (maxWait : Nat) (handle : Handle Client) :
    List (Contact Client Connection Value) → Ending Value → Prop where
  | refused (waited : Nat) (cause : CallError) :
      Contacted maxWait handle [.connected handle waited (.error cause)] (.error cause)
  | late (waited : Nat) (connection : Connection) (tooLong : maxWait < waited) :
      Contacted maxWait handle [.connected handle waited (.ok connection)]
        (.error (.timeout waited))
  | operated (waited : Nat) (connection : Connection) (ending : Ending Value)
      (inTime : waited ≤ maxWait) :
      Contacted maxWait handle
        [.connected handle waited (.ok connection), .operated connection ending] ending

variable (transport : Transport World Client Connection Value) (maxWait : Nat)
  (context : CallContext)

theorem attempt_logging (world : World) (log : List (Contact Client Connection Value))
    (handle : Handle Client) :
    ∃ contacts, Contacted maxWait handle contacts
        (attempt transport maxWait context world handle).2 ∧
      attempt transport.logging maxWait context (world, log) handle =
        (((attempt transport maxWait context world handle).1, log ++ contacts),
          (attempt transport maxWait context world handle).2) := by
  obtain ⟨connect, operate⟩ := transport
  unfold attempt Transport.logging
  dsimp only
  obtain ⟨connected, waited, connection⟩ := connect world handle maxWait
  cases connection with
  | error cause => exact ⟨_, .refused waited cause, rfl⟩
  | ok connection =>
      dsimp only
      by_cases tooLong : maxWait < waited
      · rw [if_pos tooLong, if_pos tooLong]
        exact ⟨_, .late waited connection tooLong, rfl⟩
      · rw [if_neg tooLong, if_neg tooLong, List.append_assoc]
        exact ⟨_, .operated waited connection _ (Nat.le_of_not_lt tooLong), rfl⟩

/-- Keeping the list changes nothing, and what is on it comes from the calls, one after another. -/
theorem tryMembers_logging (attempts : Nat) (last : CallError) (plan : Plan Client)
    (world : World) (log : List (Contact Client Connection Value)) (health : HealthRegistry) :
    let outcome := tryMembers transport maxWait context attempts last plan world health
    ∃ parts : List (List (Contact Client Connection Value)),
      List.Forall₂ (fun call contacts => Contacted maxWait call.member.handle contacts call.ending)
        (calls transport maxWait context plan world) parts ∧
      tryMembers transport.logging maxWait context attempts last plan (world, log) health =
        { world := (outcome.world, log ++ parts.flatten)
          health := outcome.health
          reports := outcome.reports
          answer := outcome.answer } := by
  induction plan generalizing last world log health with
  | nil =>
      refine ⟨[], .nil, ?_⟩
      unfold tryMembers
      rw [List.flatten_nil, List.append_nil]
  | cons member rest ih =>
      obtain ⟨contacts, contacted, logged⟩ :=
        attempt_logging transport maxWait context world log member.handle
      unfold tryMembers calls
      rw [logged]
      cases tried : attempt transport maxWait context world member.handle with
      | mk after ending =>
          rw [tried] at contacted
          cases ending with
          | value value =>
              refine ⟨[contacts], .cons contacted .nil, ?_⟩
              rw [List.flatten_singleton]
          | crash =>
              refine ⟨[contacts], .cons contacted .nil, ?_⟩
              rw [List.flatten_singleton]
          | error cause =>
              obtain ⟨parts, later, same⟩ := ih cause after (log ++ contacts)
                (member.account context health (some cause)).1
              refine ⟨contacts :: parts, .cons contacted later, ?_⟩
              dsimp only
              rw [same, List.flatten_cons, List.append_assoc]

theorem run_logging (plan : Plan Client) (world : World) (health : HealthRegistry) :
    let outcome := run transport maxWait context plan world health
    ∃ parts : List (List (Contact Client Connection Value)),
      List.Forall₂ (fun call contacts => Contacted maxWait call.member.handle contacts call.ending)
        (calls transport maxWait context plan world) parts ∧
      run transport.logging maxWait context plan (world, []) health =
        { world := (outcome.world, parts.flatten)
          health := outcome.health
          reports := outcome.reports
          answer := outcome.answer } := by
  cases plan with
  | nil => exact ⟨[], .nil, rfl⟩
  | cons member rest =>
      exact tryMembers_logging transport maxWait context _ (.transport "no member completed") _
        world [] health

theorem calls_prefix (plan : Plan Client) (world : World) :
    ∃ untried, plan =
      (calls transport maxWait context plan world).map Completion.member ++ untried := by
  induction plan generalizing world with
  | nil => exact ⟨[], rfl⟩
  | cons member rest ih =>
      unfold calls
      split
      · rename_i after cause tried
        obtain ⟨untried, same⟩ := ih after
        exact ⟨untried, congrArg (List.cons member) same⟩
      · exact ⟨rest, rfl⟩

/-- The calls end with the first success, which is then the answer, or they go to the end of the
plan without any. -/
theorem answer_cases (attempts : Nat) (last : CallError) (plan : Plan Client) (world : World)
    (health : HealthRegistry)
    (heard : ∀ call, call ∈ calls transport maxWait context plan world → call.ending.Heard) :
    let outcome := tryMembers transport maxWait context attempts last plan world health
    let endings := (calls transport maxWait context plan world).map Completion.ending
    (∃ (failures : List CallError) (value : Value),
        endings = failures.map .error ++ [.value value] ∧ outcome.answer = some (.ok value)) ∨
      ∃ failures : List CallError, endings = failures.map .error ∧
        failures.length = plan.length ∧
        outcome.answer =
          some (.error (.exhausted attempts (failures.getLast?.getD last))) := by
  induction plan generalizing last world health with
  | nil => exact .inr ⟨[], rfl, rfl, rfl⟩
  | cons member rest ih =>
      unfold calls at heard
      unfold tryMembers calls
      cases tried : attempt transport maxWait context world member.handle with
      | mk after ending =>
          rw [tried] at heard
          cases ending with
          | value value => exact .inl ⟨[], value, rfl, rfl⟩
          | crash cause => exact absurd rfl (heard _ List.mem_cons_self cause)
          | error cause =>
              rcases ih cause after (member.account context health (some cause)).1
                  (List.forall_mem_cons.mp heard).2 with
                ⟨failures, value, endings, answered⟩ | ⟨failures, endings, everybody, answered⟩
              · exact .inl ⟨cause :: failures, value, congrArg (List.cons _) endings, answered⟩
              · refine .inr ⟨cause :: failures, congrArg (List.cons _) endings,
                  congrArg (· + 1) everybody, ?_⟩
                rw [List.getLast?_cons]
                exact answered

theorem answers_run (plan : Plan Client) (world : World) (health : HealthRegistry)
    (heard : ∀ call, call ∈ calls transport maxWait context plan world → call.ending.Heard) :
    ∃ answer, (run transport maxWait context plan world health).answer = some answer ∧
      Answers plan.length ((calls transport maxWait context plan world).map Completion.ending)
        answer := by
  cases plan with
  | nil => exact ⟨.error .noRoute, rfl, .noRoute rfl⟩
  | cons member rest =>
      rcases answer_cases transport maxWait context (member :: rest).length
        (.transport "no member completed") (member :: rest) world health heard with
        ⟨failures, value, endings, answered⟩ | ⟨failures, endings, everybody, answered⟩
      · refine ⟨.ok value, answered, ?_⟩
        rw [endings]
        exact .success failures value
      · refine ⟨_, answered, ?_⟩
        rw [endings]
        refine Answers.of_failures everybody ?_ _
        rintro rfl
        cases everybody

section

variable {transport context}
  (steady : ∀ world connection, (transport.operate world connection context).2.Heard)

include steady

theorem heard_attempt (world : World) (handle : Handle Client) :
    (attempt transport maxWait context world handle).2.Heard := by
  unfold attempt
  dsimp only
  cases (transport.connect world handle maxWait).2.2 with
  | error cause => nofun
  | ok connection =>
      dsimp only
      split
      · nofun
      · exact steady _ connection

theorem heard_calls (plan : Plan Client) (world : World) :
    ∀ call, call ∈ calls transport maxWait context plan world → call.ending.Heard := by
  induction plan generalizing world with
  | nil => exact List.forall_mem_nil _
  | cons member rest ih =>
      have ended := heard_attempt maxWait steady world member.handle
      unfold calls
      split
      · exact List.forall_mem_cons.mpr ⟨nofun, ih _⟩
      · rename_i after ending other tried
        rw [tried] at ended
        exact List.forall_mem_singleton.mpr ended

/-- A plan without members changes nothing. Otherwise the members are tried in order up to the first
success, or all of them: these, and no others, are contacted, accounted for and reported, each once
and in this order, and how they ended is what answers the call. -/
theorem run_until_success (plan : Plan Client) (world : World) (health : HealthRegistry) :
    let outcome := run transport maxWait context plan world health
    (plan = [] → outcome =
        { world := world, health := health, reports := [], answer := some (.error .noRoute) }) ∧
      ∃ (tried : List (Member Client × Ending Value)) (untried : Plan Client)
        (answer : Except CallFailure Value)
        (parts : List (List (Contact Client Connection Value))),
        plan = tried.map Prod.fst ++ untried ∧
        outcome.answer = some answer ∧
        Answers plan.length (tried.map Prod.snd) answer ∧
        Accounting context
          (tried.map (fun (member, ending) => (member, Concurrent.taskError? ending))) health
          outcome.health outcome.reports ∧
        (∀ id, (∀ member, member ∈ tried.map Prod.fst → member.handle.id ≠ id) →
          outcome.health.find? id = health.find? id) ∧
        List.Forall₂ (fun trial contacts => Contacted maxWait trial.1.handle contacts trial.2)
          tried parts ∧
        run transport.logging maxWait context plan (world, []) health =
          { world := (outcome.world, parts.flatten)
            health := outcome.health
            reports := outcome.reports
            answer := outcome.answer } := by
  constructor
  · rintro rfl
    rfl
  · obtain ⟨untried, shape⟩ := calls_prefix transport maxWait context plan world
    have heard := heard_calls maxWait steady plan world
    obtain ⟨answer, answered, settled⟩ :=
      answers_run transport maxWait context plan world health heard
    obtain ⟨parts, contacted, logged⟩ := run_logging transport maxWait context plan world health
    obtain ⟨sameHealth, sameReports⟩ := run_eq_settle transport maxWait context plan world health
    have accounting := Concurrent.accounting_settle context health
      (calls transport maxWait context plan world) heard
    rw [← sameHealth, ← sameReports] at accounting
    refine ⟨(calls transport maxWait context plan world).map
      (fun call => (call.member, call.ending)), untried, answer, parts, ?_, answered, ?_, ?_, ?_,
      List.forall₂_map_left_iff.mpr contacted, logged⟩
    · rw [List.map_map]
      exact shape
    · rw [List.map_map]
      exact settled
    · rw [List.map_map]
      exact accounting
    · intro id absent
      rw [List.map_map] at absent
      apply accounting.find?_of_absent
      intro entry listed
      obtain ⟨call, called, rfl⟩ := List.mem_map.mp listed
      exact absent call.member (List.mem_map_of_mem called)

end

/-- A transport that is late with one node and fails the first operation that it comes to. -/
def flaky : Transport Nat Unit NodeId NodeId :=
  { connect := fun count handle _ =>
      (count, if handle.id = "ab" then 600 else 0, .ok handle.id)
    operate := fun count id _ =>
      (count + 1, if count = 0 then .error (.transport "reset") else .value id) }

theorem steady_flaky (count : Nat) (connection : NodeId) (context : CallContext) :
    (flaky.operate count connection context).2.Heard := by
  cases count with
  | zero => nofun
  | succ count => nofun

def repeated : Plan Unit :=
  let ab : Handle Unit := { serial := 0, node := Node.named "ab", client := () }
  let c : Handle Unit := { serial := 1, node := Node.named "c", client := () }
  let d : Handle Unit := { serial := 2, node := Node.named "d", client := () }
  [{ handle := ab, testRequest := true }, { handle := c, testRequest := false },
    { handle := c, testRequest := false }, { handle := d, testRequest := false }]

/-- The test request is late, the first call to the other node fails and the second succeeds. -/
theorem run_until_second_try :
    (∀ count connection, (flaky.operate count connection { trace := none }).2.Heard) ∧
      let outcome := run flaky 500 { trace := none } repeated 0 Cluster.pair.health
      outcome.answer = some (.ok "c") ∧
        (outcome.health.find? "ab").map HealthRecord.failures = some 1 ∧
        (outcome.health.find? "c").map HealthRecord.failures = some 1 ∧
        (outcome.health.find? "c").map HealthRecord.successes = some 1 ∧
        outcome.reports.map (fun report => (report.node, report.testRequest, report.error)) =
          [("ab", true, some (.timeout 600)), ("c", false, some (.transport "reset")),
            ("c", false, none)] ∧
        ∃ (tried : List (Member Unit × Ending NodeId)) (untried : Plan Unit),
          repeated = tried.map Prod.fst ++ untried ∧
          Accounting { trace := none }
            (tried.map (fun (member, ending) => (member, Concurrent.taskError? ending)))
            Cluster.pair.health outcome.health outcome.reports := by
  have steady := fun count connection => steady_flaky count connection { trace := none }
  obtain ⟨-, tried, untried, answer, parts, shape, -, -, accounting, -⟩ :=
    run_until_success 500 steady repeated 0 Cluster.pair.health
  exact ⟨steady, rfl, rfl, rfl, rfl, rfl, tried, untried, shape, accounting⟩

end QuorumRouting.Sequential
