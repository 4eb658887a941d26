import QuorumRouting.Service.Router

/-!
A discovery feed in memory. It keeps the list last published for each service, and hands every
list that is published on to the routers that subscribed. A router that subscribed twice is told
twice.
-/

set_option autoImplicit false

namespace QuorumRouting

structure Feed where
  published : List (String × List Listing)

namespace Feed

def empty : Feed :=
  { published := [] }

def list? (feed : Feed) (service : String) : Option (List Listing) :=
  feed.published.lookup service

def store (feed : Feed) (service : String) (listings : List Listing) : Feed :=
  { published := (service, listings) ::
      feed.published.filter (fun (other, _) => other ≠ service) }

/-- The list of a service; a service that was never published is unknown. -/
def listNodes (feed : Feed) (service : String) : Except ServiceError (List Listing) :=
  match feed.list? service with
  | some listings => .ok listings
  | none => .error (.unknownService service)

end Feed

/-- A feed with some routers, and the positions of those that listen, in the order in which they
subscribed. -/
structure Exchange (Client : Type) where
  feed : Feed
  routers : List (Router Client)
  listeners : List Nat

namespace Exchange

variable {Client : Type}

def subscribe (exchange : Exchange Client) (position : Nat) : Exchange Client :=
  { exchange with listeners := exchange.listeners ++ [position] }

/-- Tells a list to routers in turn. An overflow in one leaves the later ones untold. -/
def tell (now : Instant) (service : String) (listings : List Listing) :
    List Nat → List (Router Client) → List (Router Client) × Except Overflow Unit
  | [], routers => (routers, .ok ())
  | position :: rest, routers =>
      match routers[position]? with
      | none => tell now service listings rest routers
      | some router =>
          match router.nodesChanged now service listings with
          | (after, .ok ()) => tell now service listings rest (routers.set position after)
          | (after, .error cause) => (routers.set position after, .error cause)

def publish (exchange : Exchange Client) (now : Instant) (service : String)
    (listings : List Listing) : Exchange Client × Except Overflow Unit :=
  let (routers, result) := tell now service listings exchange.listeners exchange.routers
  ({ exchange with feed := exchange.feed.store service listings, routers := routers }, result)

end Exchange

/-- Follows the list that a feed holds for the router's service. -/
def Router.bootstrap {Client : Type} (router : Router Client) (now : Instant) (feed : Feed) :
    Router Client × Except (Failure ServiceError) RouterUpdate :=
  match feed.listNodes router.service with
  | .error reason => (router, .error (.refused reason))
  | .ok listings =>
      let (after, result) := router.apply now listings
      (after, result.mapError (Failure.mapReason ServiceError.routing))

end QuorumRouting
