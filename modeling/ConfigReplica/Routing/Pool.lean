import ConfigReplica.Store

/-!
# Node sets in the store

Two kinds of node sets are kept: the pool of all known nodes, and for each destination the swarm of
nodes that hold its messages. Both are stored as the texts of their nodes; a text that stands for no
node is left out when the set is read.
-/

namespace ConfigReplica.Routing

/-- Lists of node texts in rows. -/
def textsCodec : Codec (List String) :=
  Codec.list Codec.text

/-- Reads a stored set of nodes. -/
def loadNodes (table : Table) (key : String) : StoreM (Option NodeSet) := do
  let texts ← StoreM.load textsCodec table key
  pure (texts.map NodeSet.ofTexts)

/-- Stores a set of nodes. -/
def saveNodes (table : Table) (key : String) (nodes : NodeSet) : StoreM Unit :=
  StoreM.save textsCodec table key nodes.texts

namespace Pool

/-- The key of the pool's row. -/
def key : String := "pool"

/-- All known nodes. -/
def get : StoreM NodeSet := do
  let nodes ← loadNodes .nodePool key
  pure (nodes.getD ∅)

/-- Replaces the pool. -/
def set (nodes : NodeSet) : StoreM Unit :=
  saveNodes .nodePool key nodes

/-- Takes a node out of the pool. Gives whether it was there. -/
def remove (node : Node) : StoreM Bool := do
  let nodes ← get
  if nodes.contains node then
    set (nodes.erase node)
    pure true
  else pure false

end Pool

namespace Swarm

/-- The swarm of a destination, if it is known and not empty. -/
def get? (destination : String) : StoreM (Option NodeSet) := do
  let nodes ← loadNodes .swarms destination
  pure (nodes.filter fun nodes => !nodes.isEmpty)

/-- Replaces the swarm of a destination. -/
def set (destination : String) (nodes : NodeSet) : StoreM Unit :=
  saveNodes .swarms destination nodes

/-- Forgets the swarm of a destination. -/
def forget (destination : String) : StoreM Unit :=
  StoreM.delete .swarms destination

/-- Takes a node out of a swarm; a swarm that loses its last node is forgotten. Gives whether the
node was there. -/
def drop (destination : String) (node : Node) : StoreM Bool := do
  match ← get? destination with
  | none => pure false
  | some nodes =>
    if nodes.contains node then
      let rest := nodes.erase node
      if rest.isEmpty then forget destination else set destination rest
      pure true
    else pure false

end Swarm

end ConfigReplica.Routing
