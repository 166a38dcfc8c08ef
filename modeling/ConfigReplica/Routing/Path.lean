import ConfigReplica.Routing.Pool

/-!
# Paths

Requests go over one of two paths of three nodes. The paths are stored hop by hop, each hop in a row
of its own, and are usable only if all six hops are there. Beside the rows every path has a slot with
a state, which tells how far it is:

    absent → populating → populated → invalidated → absent

New paths are built from a shuffled pool (`hopsOf?`): with six nodes or more the two share none, and
with fewer no place holds the same node in both.
-/

namespace ConfigReplica.Routing

/-- The number of paths. -/
abbrev pathCount : Nat := 2

/-- The number of hops of a path. -/
abbrev pathLength : Nat := 3

/-- The three nodes of a path, the nearest first. -/
abbrev Hops := Vector Node pathLength

/-- A path in its slot. -/
structure Path where
  index : Fin pathCount
  hops : Hops
  deriving DecidableEq, Repr

namespace Path

/-- Whether a node is one of the hops. -/
def contains (path : Path) (node : Node) : Bool :=
  path.hops.contains node

/-- The identity of the sequence of hops. -/
def fingerprint (path : Path) : String :=
  ":".intercalate (path.hops.toList.map Node.ed25519)

end Path

/-- How far a path is. -/
inductive SlotState where
  | absent
  | populating
  | populated
  | invalidated
  deriving DecidableEq, Repr

/-- The key of the row of a hop. -/
def hopKey (index : Fin pathCount) (hop : Nat) : String :=
  Decimal.ofNat index.val ++ "-" ++ Decimal.ofNat hop

/-! ### Choosing hops -/

/-- A way to shuffle nodes: the result holds the same nodes in some order. -/
structure Shuffle where
  apply : List Node → List Node
  perm : ∀ nodes, (apply nodes).Perm nodes

namespace Shuffle

/-- Takes the nodes in the order of these places; where that is no order of all nodes, they stay as
they are. -/
def byPlaces (places : List Nat) : Shuffle where
  apply nodes :=
    let picked := places.filterMap fun place => nodes[place]?
    if picked.isPerm nodes then picked else nodes
  perm nodes := by
    dsimp only
    split
    · rename_i same
      exact List.isPerm_iff.1 same
    · exact .refl _

/-- Puts each node at a drawn place, counted around, among those after it. -/
def mix (draws : Nat → Nat) : List Node → List Node
  | [] => []
  | node :: rest =>
    let mixed := mix (fun turn => draws (turn + 1)) rest
    let place := draws 0 % (rest.length + 1)
    mixed.take place ++ node :: mixed.drop place

theorem mix_perm (draws : Nat → Nat) (nodes : List Node) : (mix draws nodes).Perm nodes := by
  induction nodes generalizing draws with
  | nil => exact .refl _
  | cons node rest ih =>
    refine List.perm_middle.trans (.cons _ ?_)
    rw [List.take_append_drop]
    exact ih _

/-- Shuffles by drawn numbers. -/
def byDraws (draws : Nat → Nat) : Shuffle where
  apply := mix draws
  perm := mix_perm draws

end Shuffle

/-- The node for one place of the second path: the first candidate that is not taken yet and differs
from the node at that place of the first path, or else the first that is not taken yet. -/
def nextHop? (candidates taken : List Node) (other : Node) : Option Node :=
  (candidates.find? fun node => !taken.contains node && node != other) <|>
    candidates.find? fun node => !taken.contains node

/-- The hops of both paths, from shuffled nodes; there have to be three nodes at least. -/
def hopsOf? : List Node → Option (Hops × Hops)
  | a :: b :: c :: d :: e :: f :: _ => some (#v[a, b, c], #v[d, e, f])
  | a :: b :: c :: spare => do
    let candidates := spare ++ [b, c, a]
    let x ← nextHop? candidates [] a
    let y ← nextHop? candidates [x] b
    let z ← nextHop? candidates [x, y] c
    some (#v[a, b, c], #v[x, y, z])
  | _ => none

/-! ### The cache of paths -/

/-- The store with the states of both slots, and whether new paths are being built. -/
structure PathCache where
  store : Store
  slots : Vector SlotState pathCount := #v[.absent, .absent]
  rebuilding : Bool := false

/-- An action on the cache of paths. -/
abbrev PathM := EStateM Error PathCache

namespace PathM

variable {α : Type}

/-- Acts on the store alone. -/
def onStore (action : StoreM α) : PathM α := fun cache =>
  match action cache.store with
  | .ok x store => .ok x { cache with store }
  | .error error store => .error error { cache with store }

/-- The state of a slot; slots that do not exist are absent. -/
def slot (index : Nat) : PathM SlotState := do
  let cache ← get
  pure (cache.slots[index]?.getD .absent)

/-- Sets the state of a slot. -/
def setSlot (index : Fin pathCount) (state : SlotState) : PathM Unit :=
  modify fun cache => { cache with slots := cache.slots.set index state }

/-- Runs an action and keeps its error as a result. -/
def attempt (action : PathM α) : PathM (Except Error α) := fun cache =>
  match action cache with
  | .ok x cache => .ok (.ok x) cache
  | .error error cache => .ok (.error error) cache

/-- The hop in a row, if the row holds the text of a node. -/
def readHop (index : Fin pathCount) (hop : Nat) : PathM (Option Node) := do
  let row ← onStore (StoreM.get? .onionPaths (hopKey index hop))
  pure do
    let text ← Bytes.ofUtf8? (← row)
    (Node.parse text).toOption

/-- A stored path, if all its hops are there. -/
def readPath (index : Fin pathCount) : PathM (Option Path) := do
  let first ← readHop index 0
  let second ← readHop index 1
  let third ← readHop index 2
  pure do
    let hops : Hops := #v[← first, ← second, ← third]
    some { index, hops }

/-- Reads the path of a slot; where it is incomplete the slot is absent, unless it is being
filled. -/
def check (index : Fin pathCount) : PathM (Option Path) := do
  match ← readPath index with
  | some path => pure (some path)
  | none =>
    if (← slot index) ≠ .populating then setSlot index .absent
    pure none

/-- Both paths, or none if either is incomplete. -/
def paths : PathM (List Path) := do
  let first ← check 0
  let second ← check 1
  match first, second with
  | some first, some second =>
    setSlot 0 .populated
    setSlot 1 .populated
    pure [first, second]
  | _, _ => pure []

/-- Stores the hops of one path. -/
def writePath (path : Path) : PathM Unit := do
  setSlot path.index .populating
  let written ← attempt <| (List.finRange pathLength).forM fun hop =>
    onStore (StoreM.put .onionPaths (hopKey path.index hop.val) (Bytes.utf8 path.hops[hop].text))
  match written with
  | .ok () => setSlot path.index .populated
  | .error error =>
    setSlot path.index .absent
    throw error

/-- Stores both paths, if there are two and no node is twice on one. -/
def setPaths (hops : List Hops) : PathM (List Path) := do
  match hops with
  | [first, second] =>
    if first.toList.Nodup ∧ second.toList.Nodup then
      let paths : List Path := [{ index := 0, hops := first }, { index := 1, hops := second }]
      paths.forM writePath
      pure paths
    else throw (.misuse .pathRepeats)
  | _ => throw (.misuse (.pathCount pathCount hops.length))

/-- Builds two paths from a pool and stores them. -/
def rebuild (shuffle : Shuffle) (pool : NodeSet) : PathM (List Path) := do
  match hopsOf? (shuffle.apply pool.toList) with
  | some (first, second) => setPaths [first, second]
  | none => throw (.insufficientNodes pathLength pool.size)

/-- Drops a path. -/
def invalidate (index : Nat) : PathM Unit := do
  if h : index < pathCount then
    setSlot ⟨index, h⟩ .invalidated
    (List.range pathLength).forM fun hop =>
      onStore (StoreM.delete .onionPaths (hopKey ⟨index, h⟩ hop))
    setSlot ⟨index, h⟩ .absent
  else throw (.misuse (.noPathSlot index))

/-- Drops both paths. -/
def clear : PathM Unit := do
  invalidate 0
  invalidate 1

/-- Begins a rebuild, unless one is going on. Gives whether it began. -/
def beginRebuild : PathM Bool := do
  let cache ← get
  if cache.rebuilding then pure false
  else
    set { cache with rebuilding := true }
    pure true

/-- Ends a rebuild. -/
def endRebuild : PathM Unit :=
  modify fun cache => { cache with rebuilding := false }

/-- Both paths; where there are none they are built from the stored pool. -/
def pathsOrRebuild (shuffle : Shuffle) : PathM (List Path) := do
  match ← paths with
  | [] =>
    if ← beginRebuild then
      let built ← attempt do
        let pool ← onStore Pool.get
        rebuild shuffle pool
      endRebuild
      match built with
      | .ok paths => pure paths
      | .error error => throw error
    else throw (.transport .rebuilding)
  | found => pure found

end PathM

end ConfigReplica.Routing
