import ConfigReplica.Retention
import ConfigReplica.Store

/-!
# The delivery ledger

The ledger remembers which messages arrived, so that a message that is delivered again is dropped,
and the last message that was fetched from each node, so that fetching goes on from there.

Received messages are kept by hash with the time they were first seen. A hash is forgotten when it is
older than the retention, or when there are too many and it is among the oldest (`Ledger.prune`). A
message whose hash would be forgotten at once is dropped.
-/

namespace ConfigReplica

/-- How long and how many received hashes are kept. -/
structure Ledger where
  /-- In milliseconds. -/
  retention : Nat := twoWeeks
  /-- For each destination. -/
  most : Nat := 4096
  deriving DecidableEq, Repr

namespace Ledger

/-! ### Fetching -/

/-- The key under which the last message from a node for a destination is kept. -/
def cursorKey (node : Routing.Node) (destination : String) : String :=
  node.text ++ "|" ++ destination

/-- The hash of the last message that was fetched from a node for a destination. -/
def lastHash (node : Routing.Node) (destination : String) : StoreM (Option String) :=
  StoreM.load Codec.text .lastHashes (cursorKey node destination)

/-- Sets the hash of the last message that was fetched. -/
def setLastHash (node : Routing.Node) (destination hash : String) : StoreM Unit :=
  StoreM.save Codec.text .lastHashes (cursorKey node destination) hash

/-! ### Receiving -/

/-- Hashes of received messages, with the time each was first seen. -/
abbrev Received := Dict Int64

/-- Received hashes in rows. -/
def codec : Codec Received :=
  Codec.dict Codec.int

/-- Whether a hash is kept rather than another one: the one seen later, or the greater of two that
were seen at the same time. -/
def outlasts (a b : String × Int64) : Bool :=
  (compareLex (compareOn Prod.snd) (compareOn Prod.fst) b a).isLE

/-- The hashes from the one that is kept longest to the one that is forgotten first. -/
def byAge (seen : Received) : List (String × Int64) :=
  seen.toList.mergeSort outlasts

/-- What is kept of received hashes. -/
def prune (ledger : Ledger) (now : Int64) (seen : Received) : Received :=
  let recent := seen.filter fun _ time => cutoff now ledger.retention ≤ time
  Std.ExtTreeMap.ofList ((byAge recent).take ledger.most)

/-- The stored hashes of a destination. -/
def stored (destination : String) : StoreM (Option Received) :=
  StoreM.load codec .receivedHashes destination

/-- The received hashes of a destination in order, if any were ever recorded. -/
def received (destination : String) : StoreM (Option (List String)) := do
  let seen ← stored destination
  pure (seen.map fun seen => seen.keys)

/-- Replaces the received hashes of a destination. Hashes that were there keep their time. -/
def setReceived (ledger : Ledger) (now : Int64) (destination : String) (hashes : List String) :
    StoreM Unit := do
  let before := (← stored destination).getD ∅
  let seen := Std.ExtTreeMap.ofList (hashes.map fun hash => (hash, before.getD hash now))
  StoreM.save codec .receivedHashes destination (ledger.prune now seen)

/-- Records a message that arrived. Gives whether it is to be taken: it was not seen before, and the
ledger will know it again. -/
def accept (ledger : Ledger) (destination hash : String) (now : Int64) : StoreM Bool := do
  let seen := (← stored destination).getD ∅
  if seen.contains hash then pure false
  else
    let seen := ledger.prune now (seen.insert hash now)
    StoreM.save codec .receivedHashes destination seen
    pure (seen.contains hash)

end Ledger

end ConfigReplica
