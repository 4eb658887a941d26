import QuorumRouting.Call.Concurrent
import QuorumRouting.CommandLine.Request
import QuorumRouting.CommandLine.Trouble
import QuorumRouting.Decimal.Places
import QuorumRouting.Service.Upkeep

/-!
A simulation of a service whose nodes fail. Batches of keyed calls go to nodes that answer or
refuse at once, and after each batch the windows of all nodes are closed. The clock moves on by
one probe interval for each batch, so that exclusions, test requests and recoveries all show
within a few batches.
-/

set_option autoImplicit false

namespace QuorumRouting.CommandLine

structure Tally where
  ok : Nat
  noRoute : Nat
  exhausted : Nat
  tests : Nat
  deriving DecidableEq, Repr

namespace Tally

def zero : Tally :=
  { ok := 0, noRoute := 0, exhausted := 0, tests := 0 }

def add {Value : Type} (tally : Tally) (tests : Nat) (answer : Except CallFailure Value) : Tally :=
  let counted := { tally with tests := tally.tests + tests }
  match answer with
  | .ok _ => { counted with ok := counted.ok + 1 }
  | .error .noRoute => { counted with noRoute := counted.noRoute + 1 }
  | .error (.exhausted _ _) => { counted with exhausted := counted.exhausted + 1 }

end Tally

namespace SimulationRequest

def nodeIds (request : SimulationRequest) : List NodeId :=
  (List.range request.nodeCount).map (fun index => "node-" ++ toString (index + 1))

def listings (request : SimulationRequest) : List Listing :=
  request.nodeIds.zipIdx.map (fun (id, index) =>
    { id := id, address := "127.0.0.1:" ++ toString (9000 + index), tags := [] })

/-- The memory of one id in bytes, its characters apart. -/
def idBytes : Nat := 24

/-- Why nothing can be simulated, if nothing can. The ids of the nodes are listed before any of
them is looked up, so there must be room for all. -/
def obstacle (request : SimulationRequest) : Option (Failure Trouble) :=
  if request.nodeCount = 0 then some (.refused .noNodes)
  else if Overflow.largestListBytes < request.nodeCount * idBytes then
    some (.overflowed .capacity)
  else (request.failing.find? (fun id => !request.nodeIds.contains id)).map (fun id =>
    .refused (.unknownNode id request.nodeCount))

def failingIn (request : SimulationRequest) (batch : Nat) : List NodeId :=
  if request.healAfter.any (fun last => last < batch) then [] else request.failing

def healsIn (request : SimulationRequest) (batch : Nat) : Bool :=
  request.healAfter.any (fun last => last + 1 = batch)

/-- A node that fails refuses the connection; any other answers at once. -/
def perform (failing : List NodeId) (handle : Handle Unit) : Concurrent.Performance Unit :=
  { connectDelay := 0
    refusal :=
      if failing.contains handle.id then some (.connect (handle.id ++ " refused connection"))
      else none
    operationDelay := 0
    ending := .value () }

/-- Makes one call. The number of the call is its key. -/
def makeCall (failing : List NodeId) (maxWait : Nat) (now : Instant) (cluster : Cluster Unit)
    (tally : Tally) (number : Nat) : Except Overflow (Cluster Unit × Tally) :=
  match Plan.resolve cluster (Key.ofText ("key-" ++ toString number)) now with
  | (_, .error overflow) => .error overflow
  | (claimed, .ok plan) =>
      let outcome :=
        Concurrent.run (perform failing) maxWait { trace := none } plan claimed.health
      .ok ({ claimed with health := outcome.health }, tally.add plan.testCount outcome.answer)

def makeCalls (failing : List NodeId) (maxWait : Nat) (now : Instant) (first count : Nat)
    (cluster : Cluster Unit) : Except Overflow (Cluster Unit × Tally) :=
  (List.range count).foldlM
    (fun (cluster, tally) index => makeCall failing maxWait now cluster tally (first + index))
    (cluster, Tally.zero)

/-- The clock counts seconds from the start of the machine in 63 bits. -/
def clockRange : Nat := UInt64.size / 2

/-- What the clock shows in seconds when a simulation starts: a machine is taken to have run for a
day by then. -/
def secondsAtStart : Nat := 86400

def clock (settings : Settings) (batch : Nat) : Except Overflow Instant :=
  let seconds := settings.probeInterval.toNat * batch
  if clockRange ≤ secondsAtStart + seconds then .error .clock
  else .ok (milliseconds (1000 * seconds))

def tallyLine (batch : Nat) (tally : Tally) (working : List NodeId) : String :=
  "batch " ++ toString batch ++ ": ok=" ++ toString tally.ok
    ++ " no_route=" ++ toString tally.noRoute ++ " exhausted=" ++ toString tally.exhausted
    ++ " probes=" ++ toString tally.tests ++ " working=" ++ Text.listed working

def transitionLine (id : NodeId) : Transition → String
  | .excluded ratio =>
      "  " ++ id ++ " excluded (failure ratio " ++ Decimal.fixed 2 ratio ++ ")"
  | .restored => "  " ++ id ++ " restored"

def runBatch (request : SimulationRequest) (router : Router Unit) (number : Nat) :
    Except Overflow (Router Unit × List String) := do
  let now ← clock router.settings number
  let maxWait := 1000000 * router.settings.connectionWait.toNat
  let first := (number - 1) * request.callCount
  let (cluster, tally) ←
    makeCalls (request.failingIn number) maxWait now first request.callCount router.cluster
  match Upkeep.tick { router with cluster := cluster } now with
  | (_, .error overflow) => throw overflow
  | (after, .ok transitions) =>
      let healing := "batch " ++ toString number ++ ": failing nodes healed"
      return (after, (if request.healsIn number then [healing] else [])
        ++ [tallyLine number tally after.cluster.working.ids]
        ++ transitions.map (fun (id, transition) => transitionLine id transition))

/-- Runs some batches one after the other, numbered on from `number`, and adds their lines to some
earlier ones. The first batch that overflows is the last. -/
def runBatches (request : SimulationRequest) :
    (count number : Nat) → Router Unit → (earlier : Array String) →
      Except Overflow (Array String)
  | 0, _, _, earlier => .ok earlier
  | count + 1, number, router, earlier => do
      let (after, lines) ← request.runBatch router number
      runBatches request count (number + 1) after (earlier ++ lines)

def openingLine (request : SimulationRequest) : String :=
  "simulating " ++ toString request.nodeCount ++ " nodes, failing "
    ++ Text.listedQuoted request.failing ++ ", " ++ toString request.callCount ++ " calls x "
    ++ toString request.batchCount ++ " batches"

def router (request : SimulationRequest) (settings : Settings) :
    Except (Failure Refusal) (Router Unit) := do
  let empty ← Router.create .md5 "simulated" settings (fun _ => .ok ()) 0
  let (router, update) := empty.apply 0 request.listings
  update.map (fun _ => router)

def report (request : SimulationRequest) (settings : Settings) :
    Except (Failure Trouble) (List String) := do
  if let some failure := request.obstacle then throw failure
  let router ← (request.router settings).mapError (Failure.mapReason .noRouting)
  let lines ← (request.runBatches request.batchCount 1 router #[request.openingLine]).mapError
    Failure.overflowed
  return lines.toList

end SimulationRequest

end QuorumRouting.CommandLine
