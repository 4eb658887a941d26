import QuorumRouting.Health.Policy

/-!
The health of one node. While the node is in the ring the outcomes of its calls are counted, and
at the end of each window the counts are judged; too many failures exclude the node. While it is
excluded its calls are not counted; instead it is offered a test request once per interval, and
one successful test request in a window brings it back at the end of the window.

Times are nanoseconds on a clock that all records share. A record reads them as whole milliseconds
from its own epoch on: what is left of a millisecond is dropped, a time before the epoch reads as
zero, and readings have 64 bits.
-/

set_option autoImplicit false

namespace QuorumRouting

/-- A point in time, in nanoseconds. -/
abbrev Instant := Int

def milliseconds (count : Int) : Instant :=
  1000000 * count

/-- How many milliseconds are over; none when the first time is the later one. -/
def millisecondsBetween (since now : Instant) : Nat :=
  (now - since).toNat / 1000000

inductive Transition where
  | excluded (failureRatio : Float)
  | restored

structure HealthRecord where
  epoch : Instant
  probeInterval : UInt64
  successes : UInt32
  failures : UInt32
  inRing : Bool
  /-- Did a test request succeed since the node was excluded? -/
  recovered : Bool
  /-- The reading from which on the next test request is due. -/
  nextProbe : UInt64
  /-- The part of the calls that failed in the last window that had calls. -/
  failureRatio : Float

/-- The later of two readings, `reading + interval`, if it has 64 bits. -/
def addMilliseconds (reading interval : UInt64) : Except Overflow UInt64 :=
  if reading.toNat + interval.toNat < UInt64.size then .ok (reading + interval) else .error .sum

namespace HealthRecord

/-- The record of a node that nothing is known about: it is in the ring. An interval too long for
64 bits of milliseconds loses its high bits. -/
def fresh (probeInterval : Nat) (created : Instant) : HealthRecord :=
  { epoch := created
    probeInterval := UInt64.ofNat probeInterval
    successes := 0
    failures := 0
    inRing := true
    recovered := false
    nextProbe := 0
    failureRatio := 0.0 }

/-- What the record's own clock shows. -/
def reading (record : HealthRecord) (now : Instant) : UInt64 :=
  UInt64.ofNat (millisecondsBetween record.epoch now)

/-- Counts some successful calls. The counter has 32 bits and wraps round. -/
def recordSuccesses (record : HealthRecord) (count : Nat) : HealthRecord :=
  if record.inRing then { record with successes := record.successes + UInt32.ofNat count }
  else record

/-- Counts some failed calls. The counter has 32 bits and wraps round. -/
def recordFailures (record : HealthRecord) (count : Nat) : HealthRecord :=
  if record.inRing then { record with failures := record.failures + UInt32.ofNat count }
  else record

def recordSuccess (record : HealthRecord) : HealthRecord :=
  record.recordSuccesses 1

def recordFailure (record : HealthRecord) : HealthRecord :=
  record.recordFailures 1

/-- A test request succeeded. A node that is in the ring again by then has it counted like any
other success. -/
def recordTestSuccess (record : HealthRecord) : HealthRecord :=
  if record.inRing then record.recordSuccess else { record with recovered := true }

/-- Grants a test request if the node is excluded and one is due, and sets the time of the next
one. -/
def claimProbe (record : HealthRecord) (now : Instant) : HealthRecord × Except Overflow Bool :=
  if record.inRing ∨ record.reading now < record.nextProbe then (record, .ok false)
  else match addMilliseconds (record.reading now) record.probeInterval with
    | .error overflow => (record, .error overflow)
    | .ok due => ({ record with nextProbe := due }, .ok true)

def windowRatio (record : HealthRecord) : Float :=
  Float.ofNat record.failures.toNat
    / Float.ofNat (record.successes.toNat + record.failures.toNat)

def breaches (record : HealthRecord) (policy : HealthPolicy) : Bool :=
  policy.minRequests.toNat ≤ record.successes.toNat + record.failures.toNat
    && policy.failureRatioThreshold < record.windowRatio

def cleared (record : HealthRecord) : HealthRecord :=
  { record with successes := 0, failures := 0 }

def exclude (record : HealthRecord) (ratio : Float) (now : Instant) :
    HealthRecord × Except Overflow (Option Transition) :=
  let waiting := { record with recovered := false }
  match addMilliseconds (record.reading now) record.probeInterval with
  | .error overflow => (waiting, .error overflow)
  | .ok due =>
      ({ waiting with nextProbe := due, inRing := false }, .ok (some (.excluded ratio)))

/-- Closes the window, starts the next one, and says how the node's state changed. -/
def evaluate (record : HealthRecord) (policy : HealthPolicy) (now : Instant) :
    HealthRecord × Except Overflow (Option Transition) :=
  if ¬ record.inRing then
    if record.recovered then
      ({ record.cleared with recovered := false, failureRatio := 0.0, inRing := true },
        .ok (some .restored))
    else (record.cleared, .ok none)
  else if record.successes.toNat + record.failures.toNat = 0 then (record.cleared, .ok none)
  else
    let judged := { record.cleared with failureRatio := record.windowRatio }
    if record.breaches policy then judged.exclude record.windowRatio now
    else (judged, .ok none)

def diagnostic (record : HealthRecord) : String :=
  Text.record "NodeHealth" [
    ("state", if record.inRing then "Working" else "Excluded"),
    ("failure_ratio", Decimal.Style.diagnostic.write record.failureRatio)]

end HealthRecord

end QuorumRouting
