import QuorumRouting.Call.Concurrent
import QuorumRouting.Call.Sequential
import QuorumRouting.Proofs.Call.Dispatch

/-!
What calls come to. A call that reaches a member that succeeds is answered with a value, unless its
operation breaks down on the caller before that. What a call records, one member after another or
all of them as they come in, is what completions of its tickets record, so runs of calls are runs of
the cluster.
-/

set_option autoImplicit false

namespace QuorumRouting

open Cluster (Dispatch Event tickets)

variable {Client : Type}

/-- Did it end in a result, rather than break down? -/
def Ending.Heard {Value : Type} (ending : Ending Value) : Prop :=
  ∀ cause, ending ≠ .crash cause

namespace Sequential

section

variable {World Connection Value : Type} (transport : Transport World Client Connection Value)
  (maxWait : Nat) (context : CallContext)

/-- The world once every member of a plan was tried and has failed; there is none when one of them
ended in another way. -/
def exhaust : Plan Client → World → Option World
  | [], world => some world
  | member :: rest, world =>
      match attempt transport maxWait context world member.handle with
      | (after, .error _) => exhaust rest after
      | _ => none

/-- Does a call that tries the members of a plan in turn come to this one, and break down on it? -/
def BreaksDownOn (plan : Plan Client) (world : World) (member : Member Client) : Prop :=
  ∃ front rest reached, plan = front ++ member :: rest ∧
    exhaust transport maxWait context front world = some reached ∧
    ¬ (attempt transport maxWait context reached member.handle).2.Heard

variable {transport maxWait context}

theorem BreaksDownOn.cons {rest : Plan Client} {world after : World} {first member : Member Client}
    {error : CallError}
    (failed : attempt transport maxWait context world first.handle = (after, .error error))
    (breaks : BreaksDownOn transport maxWait context rest after member) :
    BreaksDownOn transport maxWait context (first :: rest) world member := by
  obtain ⟨front, behind, reached, shape, exhausted, unheard⟩ := breaks
  refine ⟨first :: front, behind, reached, congrArg (List.cons first) shape, ?_, unheard⟩
  unfold exhaust
  rw [failed]
  exact exhausted

def Told (transport : Transport World Client Connection Value) (maxWait : Nat)
    (context : CallContext) (event : Event Client) : Prop :=
  ∃ ticket world, event = .completion ticket
    (Concurrent.taskError? (attempt transport maxWait context world ticket.member.handle).2)

end

end Sequential

namespace Concurrent

variable {Value : Type}

def Told (completions : List (Completion Client Value)) (event : Event Client) : Prop :=
  ∃ ticket completion, completion ∈ completions ∧ ticket.member = completion.member ∧
    event = .completion ticket (taskError? completion.ending)

theorem Told.cons {completions : List (Completion Client Value)} {event : Event Client}
    (completion : Completion Client Value) (told : Told completions event) :
    Told (completion :: completions) event := by
  obtain ⟨ticket, other, listed, same, shape⟩ := told
  exact ⟨ticket, other, List.mem_cons_of_mem _ listed, same, shape⟩

theorem settle_cons_of_not_heard (context : CallContext) (health : HealthRegistry)
    {completion : Completion Client Value} (rest : List (Completion Client Value))
    (unheard : ¬ completion.ending.Heard) :
    settle context health (completion :: rest) = settle context health rest := by
  conv => lhs; unfold settle
  cases ended : completion.ending with
  | value value => exact absurd (ended ▸ nofun) unheard
  | error error => exact absurd (ended ▸ nofun) unheard
  | crash cause => rfl

end Concurrent

end QuorumRouting
