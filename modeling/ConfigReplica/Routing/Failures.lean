import ConfigReplica.Routing.Path

/-!
# Failure counts

Failures in a row are counted for each path and each node. A count that reaches its limit trips: what
it counts is dropped, and the count starts anew. A request that succeeds ends both counts.
-/

namespace ConfigReplica.Routing

/-- After how many failures in a row a path or a node is dropped. Limits of zero count as one. -/
structure Limits where
  path : Nat := 3
  node : Nat := 3
  deriving DecidableEq, Repr

/-- Failures in a row, of paths by fingerprint and of nodes. -/
structure Failures where
  paths : Dict Nat := ∅
  nodes : Std.ExtTreeMap Node Nat := ∅

namespace Failures

/-- The failures of a path. -/
def ofPath (f : Failures) (path : Path) : Nat :=
  f.paths.getD path.fingerprint 0

/-- The failures of a node. -/
def ofNode (f : Failures) (node : Node) : Nat :=
  f.nodes.getD node 0

/-- The count after one more failure, and whether it trips. -/
def bump (limit count : Nat) : Bool × Nat :=
  if max limit 1 ≤ count + 1 then (true, 0) else (false, count + 1)

/-- Counts a failure of a path. Gives whether the path is to be dropped. -/
def pathFailed (limits : Limits) (path : Path) (f : Failures) : Bool × Failures :=
  let (tripped, count) := bump limits.path (f.ofPath path)
  (tripped, { f with paths := f.paths.insert path.fingerprint count })

/-- Counts a failure of a node. Gives whether the node is to be dropped. -/
def nodeFailed (limits : Limits) (node : Node) (f : Failures) : Bool × Failures :=
  let (tripped, count) := bump limits.node (f.ofNode node)
  (tripped, { f with nodes := f.nodes.insert node count })

/-- Ends the counts of a path and a node that answered. -/
def succeeded (path : Path) (node : Node) (f : Failures) : Failures :=
  { paths := f.paths.erase path.fingerprint, nodes := f.nodes.erase node }

end Failures

end ConfigReplica.Routing
