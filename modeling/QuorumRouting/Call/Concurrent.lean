import QuorumRouting.Call.Report

/-!
Calls to all members at once. The answer is the first success; failures only show when every
member has completed, and the failure of the member that completed last is the one that is told.
Members that are still running when the answer is there run on, and are accounted for like the
others.
-/

set_option autoImplicit false

namespace QuorumRouting.Concurrent

/-- What the task of one member goes through: a wait for the connection, which may be refused,
then the time of the operation. Times are in nanoseconds. -/
structure Performance (Value : Type) where
  connectDelay : Nat
  refusal : Option CallError
  operationDelay : Nat
  ending : Ending Value

structure Completion (Client Value : Type) where
  member : Member Client
  time : Nat
  ending : Ending Value

structure Outcome (Value : Type) where
  health : HealthRegistry
  reports : List Report
  answer : Except CallFailure Value
  elapsed : Nat

variable {Client Value : Type}

/-- Runs the task of one member. A connection that takes longer than the wait is given up when
the wait is over. -/
def Performance.complete (performance : Performance Value) (maxWait : Nat)
    (member : Member Client) : Completion Client Value :=
  if maxWait < performance.connectDelay then
    { member := member, time := maxWait, ending := .error (.timeout maxWait) }
  else match performance.refusal with
    | some refusal =>
        { member := member, time := performance.connectDelay, ending := .error refusal }
    | none =>
        { member := member
          time := performance.connectDelay + performance.operationDelay
          ending := performance.ending }

def schedule (perform : Handle Client → Performance Value) (maxWait : Nat)
    (plan : Plan Client) : List (Completion Client Value) :=
  (plan.map (fun member => (perform member.handle).complete maxWait member)).mergeSort
    (fun first second => first.time ≤ second.time)

def taskError? : Ending Value → Option CallError
  | .value _ => none
  | .error cause => some cause
  | .crash cause => some (.transport ("member task failed: " ++ cause))

/-- The answer of a call of some attempts from the completions that come in: the first success,
or the error of the last one. -/
def answer (attempts : Nat) (last : CallError) :
    List (Completion Client Value) → Except CallFailure Value
  | [] => .error (.exhausted attempts last)
  | completion :: rest =>
      match completion.ending with
      | .value value => .ok value
      | ending => answer attempts ((taskError? ending).getD last) rest

/-- When the answer is there: at the first success, or when the last member completes. -/
def answerTime : List (Completion Client Value) → Nat
  | [] => 0
  | completion :: rest =>
      match completion.ending, rest with
      | .value _, _ => completion.time
      | _, [] => completion.time
      | _, _ :: _ => answerTime rest

/-- Accounts for completions as they come in. A task that broke down says nothing about its
node. -/
def settle (context : CallContext) (health : HealthRegistry) :
    List (Completion Client Value) → HealthRegistry × List Report
  | [] => (health, [])
  | completion :: rest =>
      match completion.ending with
      | .crash _ => settle context health rest
      | ending =>
          let (accounted, report) := completion.member.account context health (taskError? ending)
          let (settled, reports) := settle context accounted rest
          (settled, report :: reports)

/-- The outcome of a call from its completions in the order in which they come in. -/
def conclude (context : CallContext) (health : HealthRegistry)
    (completions : List (Completion Client Value)) : Outcome Value :=
  let (settled, reports) := settle context health completions
  { health := settled
    reports := reports
    answer :=
      if completions.isEmpty then .error .noRoute
      else answer completions.length (.transport "no member completed") completions
    elapsed := answerTime completions }

def run (perform : Handle Client → Performance Value) (maxWait : Nat) (context : CallContext)
    (plan : Plan Client) (health : HealthRegistry) : Outcome Value :=
  conclude context health (schedule perform maxWait plan)

end QuorumRouting.Concurrent
