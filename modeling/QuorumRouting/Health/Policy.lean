import QuorumRouting.Decimal.Style
import QuorumRouting.Failure
import QuorumRouting.Text.Layout

/-!
The rules by which nodes are judged: which errors do not count, how many calls make a window worth
judging, and which part of them may fail.
-/

set_option autoImplicit false

namespace QuorumRouting

/-- Errors that do not speak against a node: those of some kinds, and those that a test picks. -/
structure ErrorFilter where
  kinds : List String
  test : Option (CallError → Bool)

namespace ErrorFilter

def nothing : ErrorFilter :=
  { kinds := [], test := none }

def ignores (filter : ErrorFilter) (error : CallError) : Bool :=
  (match error.kind? with
    | some kind => filter.kinds.contains kind
    | none => false) ||
  (match filter.test with
    | some test => test error
    | none => false)

def diagnostic (filter : ErrorFilter) : String :=
  Text.record "ErrorFilter" [
    ("kinds", Text.listedQuoted filter.kinds),
    ("predicate", Text.boolean filter.test.isSome)]

end ErrorFilter

structure HealthPolicy where
  /-- A node is excluded when more than this part of its calls fail. -/
  failureRatioThreshold : Float
  /-- A window with fewer calls is not judged. -/
  minRequests : UInt32
  /-- The time between two test requests to an excluded node, in milliseconds. -/
  probeInterval : Nat
  filter : ErrorFilter

end QuorumRouting
