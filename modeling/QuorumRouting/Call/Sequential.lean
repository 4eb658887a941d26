import QuorumRouting.Call.Report

/-!
Calls one after another. The members of a plan are tried in order until one succeeds; the others
are never called. Every member that was tried is accounted for in its health record, save one over
whose connection the operation broke down: the call breaks down with it.
-/

set_option autoImplicit false

namespace QuorumRouting.Sequential

/-- How clients are reached and what is done over a connection. Both may depend on what happened
before, which the world carries along. Waits are in nanoseconds. -/
structure Transport (World Client Connection Value : Type) where
  /-- Tries to connect within a wait, and says how long it really took. -/
  connect : World → Handle Client → Nat → World × Nat × Except CallError Connection
  operate : World → Connection → CallContext → World × Ending Value

structure Outcome (World Value : Type) where
  world : World
  health : HealthRegistry
  reports : List Report
  /-- There is none when the operation broke down. -/
  answer : Option (Except CallFailure Value)

variable {World Client Connection Value : Type}

/-- Connects to one node and runs the operation. A connection that took too long is not used. -/
def attempt (transport : Transport World Client Connection Value) (maxWait : Nat)
    (context : CallContext) (world : World) (handle : Handle Client) :
    World × Ending Value :=
  let (connected, waited, connection) := transport.connect world handle maxWait
  match connection with
  | .error error => (connected, .error error)
  | .ok connection =>
      if maxWait < waited then (connected, .error (.timeout waited))
      else transport.operate connected connection context

/-- Tries the members in order. When none is left the call has failed with the latest error. -/
def tryMembers (transport : Transport World Client Connection Value) (maxWait : Nat)
    (context : CallContext) (attempts : Nat) :
    CallError → Plan Client → World → HealthRegistry → Outcome World Value
  | last, [], world, health =>
      { world := world, health := health, reports := [],
        answer := some (.error (.exhausted attempts last)) }
  | _, member :: rest, world, health =>
      match attempt transport maxWait context world member.handle with
      | (after, .value value) =>
          let (accounted, report) := member.account context health none
          { world := after, health := accounted, reports := [report], answer := some (.ok value) }
      | (after, .error error) =>
          let (accounted, report) := member.account context health (some error)
          let others := tryMembers transport maxWait context attempts error rest after accounted
          { others with reports := report :: others.reports }
      | (after, .crash _) => { world := after, health := health, reports := [], answer := none }

/-- Runs a plan. A plan without members fails at once. -/
def run (transport : Transport World Client Connection Value) (maxWait : Nat)
    (context : CallContext) (plan : Plan Client) (world : World) (health : HealthRegistry) :
    Outcome World Value :=
  if plan.isEmpty then
    { world := world, health := health, reports := [], answer := some (.error .noRoute) }
  else
    tryMembers transport maxWait context plan.length (.transport "no member completed") plan
      world health

end QuorumRouting.Sequential
