import QuorumRouting.CommandLine.Level
import QuorumRouting.Decimal.Literal
import QuorumRouting.Partitioner
import QuorumRouting.Node

/-!
What a user can ask for: a report on a ring, a report on a balancer, or a simulation. A request
holds what the user gave; what was left out has a usual value or comes from the settings.
-/

set_option autoImplicit false

namespace QuorumRouting.CommandLine

structure CommonOptions where
  config : Option String
  /-- Which log lines are wanted. The commands write none, so any text will do. -/
  log : Option String
  deriving DecidableEq, Repr

structure RingRequest where
  nodes : List NodeId
  keys : List String
  virtualNodes : Option Nat
  quorumSize : Option Nat
  hash : Option Partitioner

structure BalanceRequest where
  nodes : List (NodeId × Float)
  samples : Option Nat

structure SimulationRequest where
  nodes : Option Nat
  failing : List NodeId
  calls : Option Nat
  batches : Option Nat
  /-- After how many batches the failing nodes begin to answer. -/
  healAfter : Option Nat

namespace RingRequest

def blank : RingRequest :=
  { nodes := [], keys := [], virtualNodes := none, quorumSize := none, hash := none }

def partitioner (request : RingRequest) : Partitioner :=
  request.hash.getD .md5

end RingRequest

namespace BalanceRequest

def blank : BalanceRequest :=
  { nodes := [], samples := none }

def sampleCount (request : BalanceRequest) : Nat :=
  request.samples.getD 100000

end BalanceRequest

namespace SimulationRequest

def blank : SimulationRequest :=
  { nodes := none, failing := [], calls := none, batches := none, healAfter := none }

def nodeCount (request : SimulationRequest) : Nat :=
  request.nodes.getD 5

def callCount (request : SimulationRequest) : Nat :=
  request.calls.getD 200

def batchCount (request : SimulationRequest) : Nat :=
  request.batches.getD 6

end SimulationRequest

/-! Values. -/

/-- Any text, also the empty one. -/
def readText (text : String) : Except Notice String :=
  .ok text

def readPath (text : String) : Except Notice String :=
  if text.isEmpty then .error .unsuitableValue else .ok text

def readCount (text : String) : Except Notice Nat :=
  (Decimal.readWhole text).mapError (fun error => .malformedValue error.message)

def readHash (text : String) : Except Notice Partitioner :=
  match Partitioner.ofName? text with
  | some partitioner => .ok partitioner
  | none => .error .unsuitableValue

def readWeighted (text : String) : Except Notice (NodeId × Float) :=
  match splitAtEquals text.toList with
  | (_, none) => .error (.malformedValue ("expected ID=WEIGHT, got `" ++ text ++ "`"))
  | (id, some weight) =>
      if id.isEmpty then .error (.malformedValue ("empty node id in `" ++ text ++ "`"))
      else match Decimal.readReal weight with
        | .error error =>
            .error (.malformedValue ("bad weight in `" ++ text ++ "`: " ++ error.message))
        | .ok weight => .ok (id, weight)

/-! Options. -/

def CommonOptions.options : List (ValueOption CommonOptions) := [
  .once "config" CommonOptions.config (fun common path => { common with config := some path })
    readPath,
  .once "log" CommonOptions.log (fun common filter => { common with log := some filter }) readText]

def RingRequest.options : List (ValueOption RingRequest) := [
  .manyTimes "node" (fun request id => { request with nodes := request.nodes ++ [id] }) readText,
  .manyTimes "key" (fun request key => { request with keys := request.keys ++ [key] }) readText,
  .once "vnodes" RingRequest.virtualNodes
    (fun request count => { request with virtualNodes := some count }) readCount,
  .once "quorum" RingRequest.quorumSize
    (fun request count => { request with quorumSize := some count }) readCount,
  .once "hash" RingRequest.hash
    (fun request partitioner => { request with hash := some partitioner }) readHash]

def BalanceRequest.options : List (ValueOption BalanceRequest) := [
  .manyTimes "node" (fun request entry => { request with nodes := request.nodes ++ [entry] })
    readWeighted,
  .once "samples" BalanceRequest.samples
    (fun request count => { request with samples := some count }) readCount]

def SimulationRequest.options : List (ValueOption SimulationRequest) := [
  .once "nodes" SimulationRequest.nodes
    (fun request count => { request with nodes := some count }) readCount,
  .manyTimes "fail" (fun request id => { request with failing := request.failing ++ [id] })
    readText,
  .once "requests" SimulationRequest.calls
    (fun request count => { request with calls := some count }) readCount,
  .once "batches" SimulationRequest.batches
    (fun request count => { request with batches := some count }) readCount,
  .once "heal-after" SimulationRequest.healAfter
    (fun request count => { request with healAfter := some count }) readCount]

end QuorumRouting.CommandLine
