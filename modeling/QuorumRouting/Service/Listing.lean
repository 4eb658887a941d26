import QuorumRouting.Failure
import QuorumRouting.Node

/-!
What discovery tells about a service: a list of instances, each with an id, an address and tags.
-/

set_option autoImplicit false

namespace QuorumRouting

structure Listing where
  id : String
  address : String
  tags : List String
  deriving DecidableEq, Repr

def Listing.toNode (listing : Listing) : Node :=
  { id := listing.id, address := listing.address, tags := listing.tags }

inductive ServiceError where
  | unknownService (service : String)
  | clientCreation (node reason : String)
  | routing (reason : Refusal)
  deriving DecidableEq, Repr

def ServiceError.message : ServiceError → String
  | .unknownService service => "unknown service: " ++ service
  | .clientCreation node reason => "failed to create client for " ++ node ++ ": " ++ reason
  | .routing reason => reason.message

end QuorumRouting
