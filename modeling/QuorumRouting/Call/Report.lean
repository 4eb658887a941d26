import QuorumRouting.Call.Plan

/-!
What a call has to say: its context, how its members can end, the report on each member, and how
the call as a whole can fail.
-/

set_option autoImplicit false

namespace QuorumRouting

structure Trace where
  traceId : String
  spanId : String
  sampled : Bool
  deriving DecidableEq, Repr

namespace Trace

def start (traceId spanId : String) : Trace :=
  { traceId := traceId, spanId := spanId, sampled := true }

def diagnostic (trace : Trace) : String :=
  Text.record "TraceContext" [
    ("trace_id", Text.quoted trace.traceId),
    ("span_id", Text.quoted trace.spanId),
    ("sampled", Text.boolean trace.sampled)]

end Trace

structure CallContext where
  trace : Option Trace
  deriving DecidableEq, Repr

def CallContext.diagnostic (context : CallContext) : String :=
  Text.openRecord "CallContext" [
    ("trace", Text.optional (context.trace.map Trace.diagnostic))]

/-- How what is done over the connection to a member ends. -/
inductive Ending (Value : Type) where
  | value (value : Value)
  | error (error : CallError)
  /-- It broke down, for a cause that says nothing about the node. -/
  | crash (cause : String)

structure Report where
  node : NodeId
  testRequest : Bool
  error : Option CallError
  recorded : Recorded
  trace : Option Trace
  deriving DecidableEq, Repr

def Report.isSuccess (report : Report) : Bool :=
  report.error.isNone

inductive CallFailure where
  | noRoute
  | exhausted (attempts : Nat) (last : CallError)
  deriving DecidableEq, Repr

namespace CallFailure

def message : CallFailure → String
  | .noRoute => "no route: no node available for key"
  | .exhausted attempts last =>
      "all " ++ toString attempts ++ " quorum members failed, last: " ++ last.message

def last? : CallFailure → Option CallError
  | .noRoute => none
  | .exhausted _ last => some last

def isNoRoute : CallFailure → Bool
  | .noRoute => true
  | .exhausted _ _ => false

end CallFailure

/-- Accounts for the outcome of one member in the registry, and reports it. -/
def Member.account {Client : Type} (member : Member Client) (context : CallContext)
    (health : HealthRegistry) (error : Option CallError) : HealthRegistry × Report :=
  let (accounted, recorded) := health.account member.testRequest member.handle.id error
  (accounted,
    { node := member.handle.id, testRequest := member.testRequest, error := error,
      recorded := recorded, trace := context.trace })

end QuorumRouting
