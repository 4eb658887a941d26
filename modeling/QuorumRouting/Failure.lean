import QuorumRouting.Text.Elapsed

/-!
What can go wrong. A call to a node fails with a call error; a routing operation refuses its
input with a refusal; and arithmetic that leaves the range of machine words breaks an operation
off, keeping what it has changed so far.
-/

set_option autoImplicit false

namespace QuorumRouting

inductive CallError where
  /-- No connection within the time allowed; the wait is in nanoseconds. -/
  | timeout (waited : Nat)
  | connect (message : String)
  | transport (message : String)
  /-- The node answered with an error of its own. -/
  | application (kind message : String)
  deriving DecidableEq, Repr

namespace CallError

def message : CallError → String
  | .timeout waited => "no connection after " ++ Text.elapsed waited
  | .connect message => "connect failed: " ++ message
  | .transport message => "transport failure: " ++ message
  | .application kind message => kind ++ ": " ++ message

def isConnectivity : CallError → Bool
  | .timeout _ => true
  | .connect _ => true
  | _ => false

def kind? : CallError → Option String
  | .application kind _ => some kind
  | _ => none

end CallError

inductive Refusal where
  | config (reason : String)
  | invalidNode (reason : String)
  | duplicateNode (id : String)
  | parse (reason : String)
  deriving DecidableEq, Repr

def Refusal.message : Refusal → String
  | .config reason => "invalid configuration: " ++ reason
  | .invalidNode reason => "invalid node: " ++ reason
  | .duplicateNode id => "duplicate node id: " ++ id
  | .parse reason => "failed to parse configuration: " ++ reason

inductive Overflow where
  /-- A product of counts needs more than 64 bits. -/
  | product
  /-- A list takes more memory than can be addressed. -/
  | capacity
  /-- A sum of times in milliseconds needs more than 64 bits. -/
  | sum
  /-- A point in time lies beyond the clock's range. -/
  | clock
  deriving DecidableEq, Repr

def Overflow.message : Overflow → String
  | .product => "attempt to multiply with overflow"
  | .capacity => "capacity overflow"
  | .sum => "attempt to add with overflow"
  | .clock => "overflow when adding duration to instant"

/-- The largest size in bytes of one list in memory. A longer list is an overflow of capacity. -/
def Overflow.largestListBytes : Nat := UInt64.size / 2 - 1

/-- Why an operation has no result: its input was refused, or its arithmetic overflowed. -/
inductive Failure (Reason : Type) where
  | refused (reason : Reason)
  | overflowed (cause : Overflow)
  deriving DecidableEq, Repr

def Failure.mapReason {Reason Wider : Type} (widen : Reason → Wider) :
    Failure Reason → Failure Wider
  | .refused reason => .refused (widen reason)
  | .overflowed cause => .overflowed cause

end QuorumRouting
