import QuorumRouting.Proofs.Call.Accounting

/-!
What a call to all members at once comes to, in whatever order its members complete. The first
success answers it; when there is none, the error of the member that completed last does. Members
that complete after the answer was given are accounted for and reported like the others, so that in
the end every member of the plan has been accounted for once, with its own outcome.
-/

set_option autoImplicit false

namespace QuorumRouting

variable {Client Value : Type}

def Ending.ofResult : Except CallError Value → Ending Value
  | .ok found => .value found
  | .error cause => .error cause

theorem Ending.heard_ofResult (result : Except CallError Value) : (ofResult result).Heard := by
  cases result with
  | ok found => nofun
  | error cause => nofun

/-- How the members ended that a call waited for, in this order, and its answer. The first success
is the answer. An error is told only when each of the attempts has failed, and it is the latest. -/
inductive Answers (attempts : Nat) : List (Ending Value) → Except CallFailure Value → Prop where
  | noRoute (nobody : attempts = 0) : Answers attempts [] (.error .noRoute)
  | success (failures : List CallError) (value : Value) :
      Answers attempts (failures.map .error ++ [.value value]) (.ok value)
  | exhausted (failures : List CallError) (last : CallError)
      (everybody : (failures ++ [last]).length = attempts) :
      Answers attempts ((failures ++ [last]).map .error) (.error (.exhausted attempts last))

theorem Answers.of_failures {attempts : Nat} {failures : List CallError}
    (everybody : failures.length = attempts) (present : failures ≠ []) (last : CallError) :
    Answers attempts (failures.map (Ending.error : CallError → Ending Value))
      (.error (.exhausted attempts (failures.getLast?.getD last))) := by
  rcases List.eq_nil_or_concat' failures with rfl | ⟨earlier, latest, rfl⟩
  · exact absurd rfl present
  · rw [List.getLast?_concat]
    exact .exhausted earlier latest everybody

namespace Concurrent

/-- The members of a plan have completed, each once and with its own one of the results, which are
listed in the order of the plan. Any order of the completions is possible. -/
structure Finishes (plan : Plan Client) (results : List (Except CallError Value))
    (completions : List (Completion Client Value)) : Prop where
  length_eq : results.length = plan.length
  perm : (completions.map (fun completion => (completion.member, completion.ending))).Perm
    (plan.zip (results.map Ending.ofResult))

namespace Finishes

variable {plan : Plan Client} {results : List (Except CallError Value)}
  {completions : List (Completion Client Value)}

theorem length_completions (finishes : Finishes plan results completions) :
    completions.length = plan.length := by
  have counted := finishes.perm.length_eq
  rw [List.length_map, List.length_zip, List.length_map, finishes.length_eq, Nat.min_self]
    at counted
  exact counted

theorem endings_perm (finishes : Finishes plan results completions) :
    (completions.map Completion.ending).Perm (results.map Ending.ofResult) := by
  have endings := finishes.perm.map Prod.snd
  rw [List.map_map, List.map_snd_zip ((List.length_map _).trans_le finishes.length_eq.le)]
    at endings
  exact endings

theorem heard (finishes : Finishes plan results completions) :
    ∀ completion, completion ∈ completions → completion.ending.Heard := by
  intro completion listed
  obtain ⟨result, -, same⟩ := List.mem_map.mp
    (finishes.endings_perm.mem_iff.mp (List.mem_map_of_mem listed))
  rw [← same]
  exact Ending.heard_ofResult result

end Finishes

theorem exists_results (endings : List (Ending Value))
    (heard : ∀ ending, ending ∈ endings → ending.Heard) :
    ∃ results : List (Except CallError Value), results.map Ending.ofResult = endings := by
  induction endings with
  | nil => exact ⟨[], rfl⟩
  | cons ending rest ih =>
      obtain ⟨ended, later⟩ := List.forall_mem_cons.mp heard
      obtain ⟨results, same⟩ := ih later
      cases ending with
      | value value => exact ⟨.ok value :: results, congrArg (List.cons _) same⟩
      | error cause => exact ⟨.error cause :: results, congrArg (List.cons _) same⟩
      | crash cause => exact absurd rfl (ended cause)

/-- When no task breaks down, running a plan is one of these ways of finishing it. -/
theorem finishes_schedule (perform : Handle Client → Performance Value) (maxWait : Nat)
    (plan : Plan Client)
    (heard : ∀ member, member ∈ plan →
      ((perform member.handle).complete maxWait member).ending.Heard) :
    ∃ results, Finishes plan results (schedule perform maxWait plan) := by
  obtain ⟨results, same⟩ := exists_results
    (plan.map (fun member => ((perform member.handle).complete maxWait member).ending))
    (List.forall_mem_map.mpr heard)
  refine ⟨results, ?_, ?_⟩
  · have counted := congrArg List.length same
    rw [List.length_map, List.length_map] at counted
    exact counted
  · refine ((arrivals_schedule perform maxWait plan).map _).trans (List.Perm.of_eq ?_)
    rw [same, List.map_map, ← List.map_prod_left_eq_zip]
    apply List.map_congr_left
    intro member _
    exact Prod.ext (member_complete (perform member.handle) maxWait member) rfl

theorem answer_cases (attempts : Nat) (last : CallError)
    (completions : List (Completion Client Value))
    (heard : ∀ completion, completion ∈ completions → completion.ending.Heard) :
    (∃ (failures : List CallError) (value : Value)
        (soon late : List (Completion Client Value)),
        completions = soon ++ late ∧
          soon.map Completion.ending = failures.map .error ++ [.value value] ∧
          answer attempts last completions = .ok value) ∨
      ∃ failures : List CallError, completions.map Completion.ending = failures.map .error ∧
        answer attempts last completions =
          .error (.exhausted attempts (failures.getLast?.getD last)) := by
  induction completions generalizing last with
  | nil => exact .inr ⟨[], rfl, rfl⟩
  | cons completion rest ih =>
      obtain ⟨here, later⟩ := List.forall_mem_cons.mp heard
      unfold answer
      cases ended : completion.ending with
      | value value => exact .inl ⟨[], value, [completion], rest, rfl, by simp [ended], rfl⟩
      | crash cause => exact absurd ended (here cause)
      | error cause =>
          rcases ih cause later with ⟨failures, value, soon, late, split, endings, answered⟩ |
              ⟨failures, endings, answered⟩
          · refine .inl ⟨cause :: failures, value, completion :: soon, late,
              congrArg (List.cons completion) split, ?_, answered⟩
            rw [List.map_cons, ended, endings]
            rfl
          · refine .inr ⟨cause :: failures, ?_, ?_⟩
            · rw [List.map_cons, ended, endings]
              rfl
            · rw [List.getLast?_cons]
              exact answered

/-- The call waits for some of the completions, and they decide what its answer is. -/
theorem answers_conclude (context : CallContext) (health : HealthRegistry)
    (completions : List (Completion Client Value))
    (heard : ∀ completion, completion ∈ completions → completion.ending.Heard) :
    ∃ soon late, completions = soon ++ late ∧
      Answers completions.length (soon.map Completion.ending)
        (conclude context health completions).answer := by
  by_cases nobody : completions = []
  · subst nobody
    exact ⟨[], [], rfl, .noRoute rfl⟩
  · have answered : (conclude context health completions).answer =
        answer completions.length (.transport "no member completed") completions := by
      unfold conclude
      exact if_neg (mt List.isEmpty_iff.mp nobody)
    rw [answered]
    rcases answer_cases completions.length (.transport "no member completed") completions heard
      with ⟨failures, value, soon, late, split, endings, found⟩ | ⟨failures, endings, found⟩
    · refine ⟨soon, late, split, ?_⟩
      rw [endings, found]
      exact .success failures value
    · refine ⟨completions, [], (List.append_nil completions).symm, ?_⟩
      have counted := congrArg List.length endings
      rw [List.length_map, List.length_map] at counted
      rw [endings, found]
      refine Answers.of_failures counted.symm ?_ _
      rintro rfl
      exact nobody (List.map_eq_nil_iff.mp endings)

end Concurrent

end QuorumRouting
