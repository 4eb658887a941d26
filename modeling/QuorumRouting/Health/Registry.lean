import QuorumRouting.Health.Record
import QuorumRouting.Node

/-!
The health of many nodes. A registry keeps one record per tracked node and judges all of them by
one policy. The outcome of a call goes to the record of its node; an outcome for a node that is
not tracked is classified all the same and changes nothing.
-/

set_option autoImplicit false

namespace QuorumRouting

inductive Recorded where
  | success
  | failure
  | ignored
  deriving DecidableEq, Repr

structure HealthRegistry where
  policy : HealthPolicy
  entries : List (NodeId × HealthRecord)

namespace HealthRegistry

def empty (policy : HealthPolicy) : HealthRegistry :=
  { policy := policy, entries := [] }

def find? (registry : HealthRegistry) (id : NodeId) : Option HealthRecord :=
  registry.entries.lookup id

def ids (registry : HealthRegistry) : List NodeId :=
  registry.entries.map Prod.fst

def size (registry : HealthRegistry) : Nat :=
  registry.entries.length

/-- Is the node in the ring? A node that is not tracked is taken to be. -/
def isInRing (registry : HealthRegistry) (id : NodeId) : Bool :=
  match registry.find? id with
  | some record => record.inRing
  | none => true

def track (registry : HealthRegistry) (created : Instant) (id : NodeId) : HealthRegistry :=
  match registry.find? id with
  | some _ => registry
  | none =>
      { registry with
        entries := registry.entries ++
          [(id, HealthRecord.fresh registry.policy.probeInterval created)] }

def trackAll (registry : HealthRegistry) (created : Instant) (ids : List NodeId) :
    HealthRegistry :=
  ids.foldl (fun registry id => registry.track created id) registry

def retain (registry : HealthRegistry) (ids : List NodeId) : HealthRegistry :=
  { registry with entries := registry.entries.filter (fun (id, _) => ids.contains id) }

def modify (registry : HealthRegistry) (id : NodeId) (change : HealthRecord → HealthRecord) :
    HealthRegistry :=
  { registry with
    entries := registry.entries.map (fun (other, record) =>
      if other = id then (other, change record) else (other, record)) }

/-- What the outcome of a call counts as: no error is a success. -/
def classify (registry : HealthRegistry) : Option CallError → Recorded
  | none => .success
  | some error => if registry.policy.filter.ignores error then .ignored else .failure

/-- What an outcome does to the record of its node. Only a success of a test request is special;
its failure is like any other. -/
def effect (testRequest : Bool) : Recorded → HealthRecord → HealthRecord
  | .success, record => if testRequest then record.recordTestSuccess else record.recordSuccess
  | .failure, record => record.recordFailure
  | .ignored, record => record

def account (registry : HealthRegistry) (testRequest : Bool) (id : NodeId)
    (error : Option CallError) : HealthRegistry × Recorded :=
  let recorded := registry.classify error
  (registry.modify id (effect testRequest recorded), recorded)

def record (registry : HealthRegistry) (id : NodeId) (error : Option CallError) :
    HealthRegistry × Recorded :=
  registry.account false id error

def recordTestRequest (registry : HealthRegistry) (id : NodeId) (error : Option CallError) :
    HealthRegistry × Recorded :=
  registry.account true id error

/-- Claims a test request to a node; nothing when it is not tracked. -/
def claimProbe (registry : HealthRegistry) (id : NodeId) (now : Instant) :
    HealthRegistry × Except Overflow (Option Bool) :=
  match registry.find? id with
  | none => (registry, .ok none)
  | some record =>
      let (claimed, granted) := record.claimProbe now
      (registry.modify id (fun _ => claimed), granted.map some)

/-- Closes the window of each record in turn. An overflow leaves the records after it as they
were. -/
def evaluateEntries (policy : HealthPolicy) (now : Instant) :
    List (NodeId × HealthRecord) →
      List (NodeId × HealthRecord) × Except Overflow (List (NodeId × Transition))
  | [] => ([], .ok [])
  | (id, record) :: rest =>
      match record.evaluate policy now with
      | (evaluated, .error overflow) => ((id, evaluated) :: rest, .error overflow)
      | (evaluated, .ok transition) =>
          let (others, transitions) := evaluateEntries policy now rest
          ((id, evaluated) :: others,
            transitions.map (fun transitions =>
              (transition.map (fun transition => (id, transition))).toList ++ transitions))

def inIdOrder (transitions : List (NodeId × Transition)) : List (NodeId × Transition) :=
  transitions.mergeSort (fun first second => !(second.1 < first.1))

/-- Closes the window of every record, and gives the changes of state in the order of ids. -/
def evaluateAll (registry : HealthRegistry) (now : Instant) :
    HealthRegistry × Except Overflow (List (NodeId × Transition)) :=
  let (entries, transitions) := evaluateEntries registry.policy now registry.entries
  ({ registry with entries := entries }, transitions.map inIdOrder)

end HealthRegistry

end QuorumRouting
