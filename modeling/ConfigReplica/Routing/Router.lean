import ConfigReplica.Routing.Failures

/-!
# The router

Requests are sent to a node over one of the paths. Failures are counted against what failed, the path
or the node; a path that trips is dropped and built anew by a later request, and a node that trips
leaves the swarm it was chosen from and the pool.

Which path and which member of a swarm a request takes is left to a number that the caller draws, and
what becomes of it to the network, a function that the router knows nothing of.
-/

namespace ConfigReplica.Routing

/-- Which leg of a request failed, and what was said about it. -/
inductive LegFault where
  | path (reason : String)
  | node (reason : String)
  deriving DecidableEq, Repr

/-- What goes over the network. -/
structure Request where
  path : Path
  node : Node
  payload : Bytes
  deriving DecidableEq, Repr

/-- What the network makes of requests. -/
abbrev Network := Request → Except LegFault Bytes

/-- The router of a session. -/
structure Router where
  cache : PathCache
  limits : Limits := {}
  failures : Failures := {}

/-- An action of the router. -/
abbrev RouterM := EStateM Error Router

/-- A request, if one was sent, and its answer. -/
structure Exchange where
  request : Option Request
  answer : Except Error Bytes

namespace RouterM

variable {α : Type}

/-- Acts on the cache of paths alone. -/
def onPaths (action : PathM α) : RouterM α := fun router =>
  match action router.cache with
  | .ok x cache => .ok x { router with cache }
  | .error error cache => .error error { router with cache }

/-- Acts on the store alone. -/
def onStore (action : StoreM α) : RouterM α :=
  onPaths (PathM.onStore action)

/-- The item at a place, counted around the list. -/
def pick? (items : List α) (draw : Nat) : Option α :=
  items[draw % items.length]?

/-- Counts a failure of a path. Gives whether it tripped. -/
def pathFailed (path : Path) : RouterM Bool := fun router =>
  let (tripped, failures) := router.failures.pathFailed router.limits path
  .ok tripped { router with failures }

/-- Counts a failure of a node. Gives whether it tripped. -/
def nodeFailed (node : Node) : RouterM Bool := fun router =>
  let (tripped, failures) := router.failures.nodeFailed router.limits node
  .ok tripped { router with failures }

/-- Ends the counts of a path and a node that answered. -/
def succeeded (path : Path) (node : Node) : RouterM Unit :=
  modify fun router => { router with failures := router.failures.succeeded path node }

/-- The path that a request takes. -/
def route (shuffle : Shuffle) (draw : Nat) : RouterM Path := do
  let paths ← onPaths (PathM.pathsOrRebuild shuffle)
  match pick? paths draw with
  | some path => pure path
  | none => throw (.transport .noPath)

/-- Takes note of what became of a request; `swarm` names the swarm that the node was chosen from. -/
def settle (swarm : Option String) (request : Request) :
    Except LegFault Bytes → RouterM Bytes
  | .ok answer => do
    succeeded request.path request.node
    pure answer
  | .error (.path reason) => do
    if ← pathFailed request.path then onPaths (PathM.invalidate request.path.index)
    throw (.transport (.other reason))
  | .error (.node reason) => do
    if ← nodeFailed request.node then
      if let some key := swarm then discard (onStore (Swarm.drop key request.node))
      discard (onStore (Pool.remove request.node))
    throw (.transport (.other reason))

/-- Runs an action and keeps its error as a result. -/
def attempt (action : RouterM α) : RouterM (Except Error α) := fun router =>
  match action router with
  | .ok x router => .ok (.ok x) router
  | .error error router => .ok (.error error) router

/-- Sends a payload to a node. -/
def send (network : Network) (shuffle : Shuffle) (draw : Nat) (swarm : Option String) (node : Node)
    (payload : Bytes) : RouterM Exchange := do
  match ← attempt (route shuffle draw) with
  | .error error => pure { request := none, answer := .error error }
  | .ok path =>
    let request : Request := { path, node, payload }
    let answer ← attempt (settle swarm request (network request))
    pure { request := some request, answer }

/-- The member of a swarm that a request goes to. -/
def member (destination : String) (draw : Nat) : RouterM Node := do
  match ← onStore (Swarm.get? destination) with
  | none => throw (.transport (.noSwarm destination))
  | some swarm =>
    match pick? swarm.toList draw with
    | some node => pure node
    | none => throw (.transport (.emptySwarm destination))

/-- Sends a payload to some member of a destination's swarm. -/
def sendToSwarm (network : Network) (shuffle : Shuffle) (memberDraw pathDraw : Nat)
    (destination : String) (payload : Bytes) : RouterM Exchange := do
  match ← attempt (member destination memberDraw) with
  | .error error => pure { request := none, answer := .error error }
  | .ok node => send network shuffle pathDraw (some destination) node payload

end RouterM

end ConfigReplica.Routing
