import ConfigReplica.Proofs.Routing.FailureCounts
import ConfigReplica.Proofs.Routing.HopRows
import ConfigReplica.Proofs.Routing.NodeSets

/-!
# Taking note of requests

What became of a request is counted, and what tripped is dropped (`RouterM.stateAfter_settle`). A
path that trips loses the rows of its three hops; a node that trips leaves the swarm that the call
names and then the pool, where these can be read (`Drops`). No other row changes, and none at all
where nothing trips (`Noted`).
-/

namespace ConfigReplica.Routing

/-- The rows that a node leaves when it trips. -/
def nodeCells (swarm : Option String) : List Cell :=
  Pool.cell :: (swarm.map Swarm.cell).toList

/-- What becomes of the sets of nodes when a node trips. The swarm is asked first: if it cannot be
read the pool is not reached, and a set that cannot be read can still not be read afterwards. -/
structure Drops (swarm : Option String) (node : Node) (s s' : Store) : Prop where
  swarmLeft : s'.Sized → ∀ destination ∈ swarm, nodesAt? s'.row? (Swarm.cell destination) =
    (nodesAt? s.row? (Swarm.cell destination)).map fun nodes => nodes.erase node
  poolLeft : s'.Sized →
    (∀ destination ∈ swarm, (nodesAt? s.row? (Swarm.cell destination)).isSome) →
    nodesAt? s'.row? Pool.cell = (nodesAt? s.row? Pool.cell).map fun nodes => nodes.erase node
  poolKept : ∀ destination ∈ swarm, nodesAt? s.row? (Swarm.cell destination) = none →
    s'.row? Pool.cell = s.row? Pool.cell

/-- What a request makes of the rows: the path that it took loses its hops if it trips, and its node
leaves the pool and the swarm if that trips. -/
structure Noted (swarm : Option String) (sent : Sent) (s s' : Store) : Prop where
  hops : ∀ index hop, s'.row? (hopCell index hop) =
    if sent.trips (.path sent.request.path.fingerprint) ∧ index = sent.request.path.index then none
    else s.row? (hopCell index hop)
  drops : sent.trips (.node sent.request.node) → Drops swarm sent.request.node s s'
  others : ∀ cell, (∀ index hop, cell ≠ hopCell index hop) →
    (sent.trips (.node sent.request.node) → cell ∉ nodeCells swarm) → s'.row? cell = s.row? cell

namespace Noted

variable {swarm : Option String} {sent : Sent} {s s' : Store}

/-- Nothing becomes of the rows where nothing trips. -/
theorem nothing (calm : sent.tripped = false) (same : s'.row? = s.row?) :
    Noted swarm sent s s' where
  hops index hop := by
    rw [same, Sent.trips_of_calm calm, if_neg fun trips => Bool.false_ne_true trips.1]
  drops trips := by
    rw [Sent.trips_of_calm calm] at trips
    cases trips
  others cell _ _ := congrFun same cell

/-- Hops of different paths have different rows. -/
theorem hopCell_inj {index index' : Fin pathCount} {hop hop' : Fin pathLength}
    (same : hopCell index hop = hopCell index' hop') : index = index' := by
  have apart : ∀ i j : Fin pathCount, ∀ h k : Fin pathLength,
      hopCell i h = hopCell j k → i = j := by
    decide +kernel
  exact apart _ _ _ _ same

/-- The row of a hop is none of those that hold sets of nodes. -/
theorem hopCell_notMem (swarm : Option String) (index : Fin pathCount) (hop : Fin pathLength) :
    hopCell index hop ∉ nodeCells swarm := by
  intro mem
  rcases List.mem_cons.mp mem with same | mem
  · cases congrArg Cell.table same
  · cases swarm with
    | none => cases mem
    | some destination => cases congrArg Cell.table (List.mem_singleton.mp mem)

/-- A path that trips loses its hops. -/
theorem path (failed : sent.failed? = some (.path sent.request.path.fingerprint))
    (tripped : sent.tripped = true)
    (gone : ∀ hop, s'.row? (hopCell sent.request.path.index hop) = none)
    (kept : ∀ cell, (∀ hop, cell ≠ hopCell sent.request.path.index hop) →
      s'.row? cell = s.row? cell) : Noted swarm sent s s' where
  hops index hop := by
    have trips : sent.trips (.path sent.request.path.fingerprint) = true :=
      (Sent.trips_of_failed failed).trans tripped
    split
    · next here =>
      rw [here.2]
      exact gone hop
    · next away => exact kept _ fun hop' same => away ⟨trips, hopCell_inj same⟩
  drops trips := by
    cases Sent.failed_of_trips failed trips
  others cell apart _ := kept cell (apart _)

/-- A node that trips leaves the sets of nodes. -/
theorem node (failed : sent.failed? = some (.node sent.request.node))
    (tripped : sent.tripped = true)
    (kept : ∀ cell, cell ∉ nodeCells swarm → s'.row? cell = s.row? cell)
    (drops : Drops swarm sent.request.node s s') : Noted swarm sent s s' where
  hops index hop := by
    rw [kept _ (hopCell_notMem swarm index hop), if_neg fun trips => ?_]
    cases Sent.failed_of_trips failed trips.1
  drops _ := drops
  others cell _ apart := kept cell (apart ((Sent.trips_of_failed failed).trans tripped))

end Noted

/-! ### A node that leaves its sets -/

namespace Drops

variable {node : Node} {destination : String} {s s₁ s₂ : Store}

/-- The row of a swarm is not that of the pool. -/
theorem swarmCell_ne (destination : String) : Swarm.cell destination ≠ Pool.cell :=
  fun same => by cases congrArg Cell.table same

/-- No swarm is named, and the node leaves the pool. -/
theorem of_pool (pool : Loses node Pool.cell s s₁) : Drops none node s s₁ where
  swarmLeft _ := nofun
  poolLeft sized _ := pool.left (sized _)
  poolKept := nofun

/-- The swarm cannot be read, and nothing is done. -/
theorem of_unreadable (held : nodesAt? s.row? (Swarm.cell destination) = none)
    (same : s₁.row? = s.row?) : Drops (some destination) node s s₁ where
  swarmLeft _ := by
    rintro _ ⟨⟩
    rw [same, held]
    rfl
  poolLeft _ readable := by
    have read := readable destination rfl
    rw [held] at read
    cases read
  poolKept _ _ _ := congrFun same _

section Both

variable (swarm : Loses node (Swarm.cell destination) s s₁) (pool : Loses node Pool.cell s₁ s₂)
include swarm pool

/-- Only the rows of the pool and the swarm are touched. -/
theorem kept_both (cell : Cell) (apart : cell ∉ nodeCells (some destination)) :
    s₂.row? cell = s.row? cell := by
  have notPool : cell ≠ Pool.cell := fun same => apart (same ▸ .head _)
  have notSwarm : cell ≠ Swarm.cell destination := fun same => apart (same ▸ .tail _ (.head _))
  rw [pool.others cell notPool, swarm.others cell notSwarm]

/-- The node leaves the swarm, which can be read, and then the pool. -/
theorem of_both (held : (nodesAt? s.row? (Swarm.cell destination)).isSome) :
    Drops (some destination) node s s₂ where
  swarmLeft sized := by
    rintro _ ⟨⟩
    -- what was done to the pool left the swarm alone
    have swarmRow := pool.others _ (swarmCell_ne destination)
    rw [nodesAt?_congr swarmRow]
    exact swarm.left fun bytes row => sized _ bytes (swarmRow.trans row)
  poolLeft sized _ := by
    rw [pool.left (sized _), nodesAt?_congr (swarm.others _ (swarmCell_ne destination).symm)]
  poolKept := by
    rintro _ ⟨⟩ unreadable
    rw [unreadable] at held
    cases held

end Both

end Drops

/-! ### What was counted is settled -/

namespace RouterM

variable {α β : Type} {r r' : Router}

/-- Trying an action does what it does and gives an answer. -/
theorem attempt_eq (action : RouterM α) (r : Router) :
    ∃ answer, attempt action r = .ok answer (stateAfter action r) := by
  unfold attempt stateAfter
  cases action r <;> exact ⟨_, rfl⟩

/-- What is done to the paths changes the paths alone. -/
theorem stateAfter_onPaths (action : PathM α) (r : Router) :
    stateAfter (onPaths action) r = { r with cache := stateAfter action r.cache } := by
  unfold stateAfter onPaths
  cases action r.cache <;> rfl

/-- What is done to the paths gives what it gives there. -/
theorem onPaths_of_ok {action : PathM α} {x : α} {c : PathCache}
    (ran : action r.cache = .ok x c) : onPaths action r = .ok x { r with cache := c } := by
  rw [onPaths, ran]

/-- What the store gives may be left unused. -/
theorem discard_onStore_of_ok {action : StoreM α} {x : α} {s : Store}
    (ran : action r.cache.store = .ok x s) :
    discard (onStore action) r = .ok () { r with cache := { r.cache with store := s } } := by
  have done : onStore action r = .ok x { r with cache := { r.cache with store := s } } :=
    onPaths_of_ok (PathM.onStore_eq_ok.mpr ⟨s, ran, rfl⟩)
  exact bind_of_ok done

/-- An error of the store is one of the router. -/
theorem discard_onStore_of_error {action : StoreM α} {error : Error} {s : Store}
    (ran : action r.cache.store = .error error s) :
    discard (onStore action) r = .error error { r with cache := { r.cache with store := s } } := by
  have failed :
      onStore action r = .error error { r with cache := { r.cache with store := s } } := by
    rw [onStore, onPaths, PathM.onStore, ran]
  exact bind_of_error failed

/-- What is done to the store changes the store alone. -/
theorem stateAfter_discard_onStore (action : StoreM α) (r : Router) :
    stateAfter (discard (onStore action)) r =
      { r with cache := { r.cache with store := stateAfter action r.cache.store } } := by
  have same := stateAfter_bind_pure (onStore action) (fun _ => ()) r
  refine same.trans ?_
  rw [onStore, stateAfter_onPaths, PathM.stateAfter_onStore]

/-- An error that is raised at the end changes nothing more. -/
theorem stateAfter_bind_throw (action : RouterM α) (error : Error) (r : Router) :
    stateAfter (action >>= fun _ => (throw error : RouterM β)) r = stateAfter action r := by
  cases ran : action r with
  | ok x r' =>
    rw [stateAfter_bind_of_ok ran, stateAfter_of_ok ran]
    rfl
  | error error' r' => rw [stateAfter_of_error (bind_of_error ran), stateAfter_of_error ran]

variable (swarm : Option String) (request : Request)

/-- A path that trips is dropped. -/
theorem settle_path (works : r.cache.store.Works) (reason : String) :
    ∃ c, stateAfter (settle swarm request (.error (.path reason))) r =
        { r with cache := c, failures := (r.failures.pathFailed r.limits request.path).2 } ∧
      c.store.fault = r.cache.store.fault ∧
      Noted swarm (r.failures.sent r.limits request (.error (.path reason))) r.cache.store
        c.store := by
  have counted : pathFailed request.path r = .ok (r.failures.pathFailed r.limits request.path).1
      { r with failures := (r.failures.pathFailed r.limits request.path).2 } := rfl
  unfold settle
  dsimp only
  rw [stateAfter_bind_of_ok counted]
  -- the count reaches the limit and the path goes, or it does not and nothing does
  split
  · next tripped =>
    obtain ⟨c, ran, fault, gone, kept⟩ := PathM.invalidate_of_works works request.path.index
    rw [stateAfter_bind_throw, stateAfter_onPaths, stateAfter_of_ok ran]
    exact ⟨c, rfl, fault, .path rfl tripped gone kept⟩
  · next calm => exact ⟨r.cache, rfl, rfl, .nothing (Bool.eq_false_iff.mpr calm) rfl⟩

/-- A node that trips leaves the pool and the swarm that it was chosen from. -/
theorem settle_node (works : r.cache.store.Works) (reason : String) :
    ∃ c, stateAfter (settle swarm request (.error (.node reason))) r =
        { r with cache := c, failures := (r.failures.nodeFailed r.limits request.node).2 } ∧
      c.store.fault = r.cache.store.fault ∧
      Noted swarm (r.failures.sent r.limits request (.error (.node reason))) r.cache.store
        c.store := by
  let r₁ : Router := { r with failures := (r.failures.nodeFailed r.limits request.node).2 }
  have counted :
      nodeFailed request.node r = .ok (r.failures.nodeFailed r.limits request.node).1 r₁ := rfl
  unfold settle
  dsimp only
  rw [stateAfter_bind_of_ok counted]
  -- the node is taken out of the pool alone where no swarm was named
  split
  · next tripped =>
    cases swarm with
    | none =>
      have loses := Pool.remove_loses works request.node
      dsimp only
      rw [stateAfter_bind_throw, stateAfter_discard_onStore]
      refine ⟨_, rfl, loses.fault, .node rfl tripped (fun cell apart => ?_) (.of_pool loses)⟩
      exact loses.others cell fun same => apart (same ▸ .head _)
    | some destination =>
      dsimp only
      cases held : nodesAt? r.cache.store.row? (Swarm.cell destination) with
      | none =>
        -- the swarm cannot be read, and the pool is not reached
        obtain ⟨error, ran⟩ := Swarm.drop_of_unreadable held request.node
        rw [stateAfter_of_error (bind_of_error (discard_onStore_of_error (r := r₁) ran))]
        exact ⟨_, rfl, rfl, .node rfl tripped (fun _ _ => rfl) (.of_unreadable held rfl)⟩
      | some nodes =>
        obtain ⟨there, s, ran, losesSwarm⟩ := Swarm.drop_of_held works held request.node
        have losesPool := Pool.remove_loses (works.of_fault losesSwarm.fault) request.node
        rw [stateAfter_bind_of_ok (discard_onStore_of_ok (r := r₁) ran), stateAfter_bind_throw,
          stateAfter_discard_onStore]
        exact ⟨_, rfl, losesPool.fault.trans losesSwarm.fault, .node rfl tripped
          (Drops.kept_both losesSwarm losesPool)
          (.of_both losesSwarm losesPool (Option.isSome_iff_exists.mpr ⟨nodes, held⟩))⟩
  · next calm => exact ⟨r.cache, rfl, rfl, .nothing (Bool.eq_false_iff.mpr calm) rfl⟩

/-- **What is noted of a request**: it is counted, and a leg that trips is dropped. -/
theorem stateAfter_settle (works : r.cache.store.Works) (outcome : Except LegFault Bytes) :
    ∃ c, stateAfter (settle swarm request outcome) r =
        { r with cache := c, failures := (r.failures.note r.limits request outcome).2 } ∧
      c.store.fault = r.cache.store.fault ∧
      Noted swarm (r.failures.sent r.limits request outcome) r.cache.store c.store := by
  rcases outcome with (reason | reason) | answer
  · exact settle_path swarm request works reason
  · exact settle_node swarm request works reason
  · exact ⟨r.cache, rfl, rfl, .nothing rfl rfl⟩

end RouterM

end ConfigReplica.Routing
