import QuorumRouting.Service.Router

/-!
Upkeep: closing the windows of a service's nodes at regular times. A pass that is refused is
passed over; an overflow ends the upkeep for good.
-/

set_option autoImplicit false

namespace QuorumRouting.Upkeep

variable {Client : Type}

/-- One pass. When it is refused there are no transitions. -/
def tick (router : Router Client) (now : Instant) :
    Router Client × Except Overflow (List (NodeId × Transition)) :=
  match router.runMaintenance now with
  | (after, .ok transitions) => (after, .ok transitions)
  | (after, .error (.refused _)) => (after, .ok [])
  | (after, .error (.overflowed cause)) => (after, .error cause)

/-- Some passes at the same reading of the clock, up to the first overflow. -/
def passes (now : Instant) : Nat → Router Client → Router Client
  | 0, router => router
  | count + 1, router =>
      match tick router now with
      | (after, .ok _) => passes now count after
      | (after, .error _) => after

/-- How many passes there are in a run: one at every multiple of the interval strictly between its
start and its end. Without an interval there is none. -/
def passCount (interval run : Nat) : Nat :=
  if interval = 0 then 0 else (run - 1) / interval

def run (router : Router Client) (now : Instant) (interval duration : Nat) : Router Client :=
  passes now (passCount interval duration) router

end QuorumRouting.Upkeep
