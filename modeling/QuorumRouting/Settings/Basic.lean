import QuorumRouting.Health.Policy
import QuorumRouting.Ring.Blueprint

/-!
Settings of a routing service. Every setting has a usual value; settings must be checked before
they are used, and the checks come in a fixed order.
-/

set_option autoImplicit false

namespace QuorumRouting

structure Settings where
  quorumSize : UInt64
  virtualNodes : UInt64
  /-- A node is excluded when more than this part of its calls fail. -/
  failureRatioThreshold : Float
  /-- A window with fewer calls is not judged. -/
  minRequests : UInt32
  /-- The length of a window in milliseconds. -/
  healthCheckInterval : UInt64
  /-- The time between two test requests in seconds. -/
  probeInterval : UInt64
  /-- How long a call waits for a connection, in milliseconds. -/
  connectionWait : UInt64
  /-- Kinds of application errors that do not count as failures. -/
  ignoredKinds : List String
  /-- A test that picks further errors that do not count. -/
  ignoredTest : Option (CallError → Bool)

namespace Settings

def usual : Settings :=
  { quorumSize := UInt64.ofNat Blueprint.usualQuorumSize
    virtualNodes := UInt64.ofNat Blueprint.usualVirtualNodes
    failureRatioThreshold := 0.5
    minRequests := 10
    healthCheckInterval := 1000
    probeInterval := 5
    connectionWait := 500
    ignoredKinds := []
    ignoredTest := none }

/-- Why the settings cannot be used, if they cannot. Failure ratios are never above one, so a
threshold of one would exclude nothing. -/
def fault (settings : Settings) : Option String :=
  let threshold := settings.failureRatioThreshold
  if settings.quorumSize = 0 then some "quorum_size must be > 0"
  else if settings.virtualNodes = 0 then some "virtual_nodes_per_physical_node must be > 0"
  else if ¬ (0.0 < threshold ∧ threshold < 1.0) then
    some ("failure_ratio_threshold must be in (0, 1), got "
      ++ Decimal.Style.message.write threshold)
  else if settings.healthCheckInterval = 0 then some "health_check_interval_ms must be > 0"
  else if settings.probeInterval = 0 then some "probe_interval_secs must be > 0"
  else if settings.connectionWait = 0 then some "max_wait_for_connection_ms must be > 0"
  else none

def check (settings : Settings) : Except Refusal Settings :=
  match settings.fault with
  | some reason => .error (.config reason)
  | none => .ok settings

def filter (settings : Settings) : ErrorFilter :=
  { kinds := settings.ignoredKinds, test := settings.ignoredTest }

def healthPolicy (settings : Settings) : HealthPolicy :=
  { failureRatioThreshold := settings.failureRatioThreshold
    minRequests := settings.minRequests
    probeInterval := 1000 * settings.probeInterval.toNat
    filter := settings.filter }

def blueprint (settings : Settings) (partitioner : Partitioner) : Blueprint :=
  { partitioner := partitioner
    virtualNodes := settings.virtualNodes.toNat
    quorumSize := settings.quorumSize.toNat }

def diagnostic (settings : Settings) : String :=
  Text.record "RoutingConfig" [
    ("quorum_size", toString settings.quorumSize.toNat),
    ("virtual_nodes_per_physical_node", toString settings.virtualNodes.toNat),
    ("failure_ratio_threshold", Decimal.Style.diagnostic.write settings.failureRatioThreshold),
    ("min_requests_per_window", toString settings.minRequests.toNat),
    ("health_check_interval_ms", toString settings.healthCheckInterval.toNat),
    ("probe_interval_secs", toString settings.probeInterval.toNat),
    ("max_wait_for_connection_ms", toString settings.connectionWait.toNat),
    ("ignored_error_kinds", Text.listedQuoted settings.ignoredKinds),
    ("ignored_error_predicate", Text.boolean settings.ignoredTest.isSome)]

end Settings

end QuorumRouting
