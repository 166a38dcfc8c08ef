import ConfigReplica.Proofs.Routing.Builds
import ConfigReplica.Proofs.Routing.Sending

/-!
# Failures in a row

A router starts without counts, and then requests are sent over it in any order, to any nodes, with
any outcome. Beside it a history of these requests is kept (`Router.Run`). The counts of the router
tell of this history and stay below their limits (`Router.Run.tells`), and what is dropped is
dropped with the failure that reaches the limit (`Router.failures_in_a_row`).

Not all that reaches its limit is dropped (`Router.tripped_and_kept`). A path that was not taken
stays, even if it has the fingerprint and so the count of the one that was, and a node stays in the
pool if it was chosen from a swarm that cannot be read any more.
-/

namespace ConfigReplica.Routing

/-- What a run of calls makes of a router that is new, with the requests that were sent, the latest
first. What else is done to the pool, the swarms and the paths leaves the counts alone. -/
inductive Router.Run (limits : Limits) : List Sent → Router → Prop
  | start {r : Router} (own : r.limits = limits) (new : r.failures = {})
      (works : r.cache.store.Works) : Run limits [] r
  | send {history : List Sent} {r : Router} (past : Run limits history r) (call : Sending) :
      Run limits ((call.sent? r).toList ++ history) (stateAfter call.action r)
  | elsewhere {history : List Sent} {r : Router} {cache : PathCache} (past : Run limits history r)
      (works : cache.store.Works) : Run limits history { r with cache }

/-- What a call makes of a router, in view of the requests that were sent before. There is always an
answer. The rows are compared with those that there are when the request is about to be sent
(`Sending.prepared`), and these are what they were unless the paths were incomplete and had to be
built. A call that sends no request counts nothing. -/
structure Sending.Accounts (call : Sending) (limits : Limits) (history : List Sent)
    (r r' : Router) : Prop where
  answers : ∃ exchange, call.action r = .ok exchange r'
  others : ∀ cell, cell.table ≠ .onionPaths →
    (call.prepared r).row? cell = r.cache.store.row? cell
  complete : pathsAt r.cache.store.row? ≠ [] →
    (call.prepared r).row? = r.cache.store.row? ∧
      ∀ sent ∈ call.sent? r, sent.request.path ∈ pathsAt r.cache.store.row?
  unsent : call.sent? r = none →
    r'.failures = r.failures ∧ r'.cache.store.row? = (call.prepared r).row?
  trips : ∀ sent ∈ call.sent? r, sent.tripped ↔
    ∃ leg, sent.failed? = some leg ∧ streak leg history + 1 = limits.trip leg
  noted : ∀ sent ∈ call.sent? r, Noted call.swarm sent (call.prepared r) r'.cache.store

/-- The counts tell of the requests that were sent. -/
structure Router.Tells (limits : Limits) (history : List Sent) (r : Router) : Prop where
  own : r.limits = limits
  works : r.cache.store.Works
  count : ∀ leg, r.failures.count leg = streak leg history
  low : ∀ leg, streak leg history < limits.trip leg

namespace Router

variable {limits : Limits} {history : List Sent} {r r' : Router}

/-- A call that sends a request adds it to the history. -/
theorem Run.sent (past : Run limits history r) {call : Sending} {sent : Sent}
    (made : call.sent? r = some sent) :
    Run limits (sent :: history) (stateAfter call.action r) := by
  have run := past.send call
  rwa [made] at run

/-- No leg trips without a failure. -/
theorem trip_pos (limits : Limits) (leg : Leg) : 0 < limits.trip leg := by
  cases leg <;> exact Nat.lt_of_lt_of_le Nat.zero_lt_one (Nat.le_max_right _ _)

namespace Tells

/-- A leg trips with the failure that reaches the limit, and the count never goes beyond it. -/
theorem tripped_iff (tells : Tells limits history r) (request : Request)
    (outcome : Except LegFault Bytes) :
    (r.failures.sent r.limits request outcome).tripped ↔
      ∃ leg, (r.failures.sent r.limits request outcome).failed? = some leg ∧
        streak leg history + 1 = limits.trip leg := by
  rw [Failures.tripped_iff, tells.own]
  refine exists_congr fun leg => and_congr_right fun _ => ?_
  have low := tells.low leg
  rw [tells.count]
  omega

/-- **A request**: the counts tell of it too. -/
theorem sent (tells : Tells limits history r) (request : Request)
    (outcome : Except LegFault Bytes) {c : PathCache}
    (fault : c.store.fault = r.cache.store.fault) :
    Tells limits (r.failures.sent r.limits request outcome :: history)
      { r with cache := c, failures := (r.failures.note r.limits request outcome).2 } where
  own := tells.own
  works := tells.works.of_fault fault
  count leg := by
    rw [streak_cons, ← tells.count]
    exact r.failures.count_note r.limits request outcome leg
  low leg := by
    rw [streak_cons]
    split
    · exact trip_pos limits leg
    · next goesOn =>
      have low := tells.low leg
      split
      · next fails =>
        -- it would have tripped with this failure
        have failed := of_decide_eq_true fails
        have notYet : ¬ streak leg history + 1 = limits.trip leg := by
          intro reached
          refine goesOn (Bool.or_eq_true_iff.mpr (.inr ?_))
          rw [Sent.trips_of_failed failed]
          exact (tells.tripped_iff request outcome).mpr ⟨leg, failed, reached⟩
        omega
      · exact low

end Tells

/-- **Along a run** the counts tell of the requests that were sent. -/
theorem Run.tells (run : Run limits history r) : Tells limits history r := by
  induction run with
  | start own new works =>
    refine ⟨own, works, fun leg => ?_, fun leg => trip_pos limits leg⟩
    rw [new]
    cases leg <;> rfl
  | @send history r past call ih =>
    rcases call.call_cases r ih.works with
      ⟨exchange, c, acts, unsent, fault, -⟩ | ⟨exchange, request, c, acts, sent, fault, -⟩
    · rw [unsent, stateAfter_of_ok acts]
      exact ⟨ih.own, ih.works.of_fault fault, ih.count, ih.low⟩
    · rw [sent, stateAfter_of_ok acts]
      exact ih.sent request _ fault
  | elsewhere past works ih => exact ⟨ih.own, works, ih.count, ih.low⟩

/-- A call accounts for the request that it sends. -/
theorem Tells.accounts (tells : Tells limits history r) (call : Sending) :
    -- either a request was sent or the call ended before that
    ∃ r', call.Accounts limits history r r' := by
  have chooses := call.chooses_prepare r
  rcases call.call_cases r tells.works with
    ⟨exchange, c, acts, unsent, -, same⟩ | ⟨exchange, request, c, acts, sent, -, noted, taken⟩
  · -- no request is sent, so nothing is said of one
    have none {P : Sent → Prop} : ∀ sent ∈ call.sent? r, P sent := by
      rw [unsent]
      nofun
    exact ⟨_, {
      answers := ⟨exchange, acts⟩
      others := chooses.others
      complete := fun whole => ⟨chooses.complete whole, none⟩
      unsent := fun _ => ⟨rfl, congrArg Store.row? same⟩
      trips := none
      noted := none }⟩
  · have one {P : Sent → Prop}
        (holds : P (r.failures.sent r.limits request (call.network request))) :
        ∀ sent ∈ call.sent? r, P sent := by
      rw [sent]
      rintro _ ⟨⟩
      exact holds
    exact ⟨_, {
      answers := ⟨exchange, acts⟩
      others := chooses.others
      complete := fun whole => ⟨chooses.complete whole, one (taken whole)⟩
      unsent := fun unsent => by cases sent.symm.trans unsent
      trips := one (tells.tripped_iff request _)
      noted := one noted }⟩

/-- What a call makes of a router is what it leaves. -/
theorem Tells.accounts_stateAfter (tells : Tells limits history r) (call : Sending) :
    call.Accounts limits history r (stateAfter call.action r) := by
  obtain ⟨r', accounts⟩ := tells.accounts call
  obtain ⟨exchange, acts⟩ := accounts.answers
  rwa [stateAfter_of_ok acts]

/-- **A path fails** that was picked from complete ones. If this reaches the limit its hops are
dropped; no other hop is, whatever the fingerprints of the paths. -/
theorem Tells.path_fails (tells : Tells limits history r) (call : Sending) {swarm : Option String}
    {node : Node} {path : Path} {reason : String} (target : call.target = .node swarm node)
    (picked : RouterM.pick? (pathsAt r.cache.store.row?) call.draw = some path)
    (down : ∀ request, call.network request = .error (.path reason)) :
    ∃ sent, call.sent? r = some sent ∧ sent.failed? = some (.path path.fingerprint) ∧
      (sent.tripped ↔ streak (.path path.fingerprint) history + 1 = max limits.path 1) ∧
      ∀ index hop, (stateAfter call.action r).cache.store.row? (hopCell index hop) =
        if sent.tripped ∧ index = path.index then none
        else r.cache.store.row? (hopCell index hop) := by
  have sent := call.sent?_of_complete r tells.works target picked
  dsimp only at sent
  rw [down] at sent
  have failed : (r.failures.sent r.limits { path, node, payload := call.payload }
      (.error (.path reason))).failed? = some (.path path.fingerprint) := rfl
  have accounts := tells.accounts_stateAfter call
  have trips := accounts.trips _ sent
  -- complete paths are there, as one of them was picked, so none is built for this call
  have complete : pathsAt r.cache.store.row? ≠ [] := by
    intro none
    rw [none] at picked
    cases picked
  refine ⟨_, sent, failed, trips.trans ⟨?_, fun reached => ⟨_, failed, reached⟩⟩,
    fun index hop => ?_⟩
  · -- no other leg than that of the path failed
    rintro ⟨leg, own, reached⟩
    obtain rfl := Option.some.inj (failed.symm.trans own)
    exact reached
  · rw [(accounts.noted _ sent).hops, (accounts.complete complete).1]
    have same := congrArg (· = true) (Sent.trips_of_failed failed)
    exact if_congr (and_congr_left' (iff_of_eq same)) rfl rfl

/-- **Failures in a row.** After any requests, each count is the number of failures since the path
or the node answered last, tripped last or was new, and it is below the limit. With the next call

* no row but those of hops changes before the request is sent, and these only if the paths have to
  be built;
* the path or the node that fails trips exactly if this failure reaches the limit;
* the hops of the path that was taken are dropped exactly if the path trips, and no other hop ever;
* the node leaves the pool and the swarm that the call names exactly if it trips, and no other node
  ever does. A set that cannot be read stays so, and if this is the swarm the pool keeps the node
  (`Drops`). No row of another swarm changes.

Two paths can have one fingerprint. They share a count then, and the one that was taken is dropped.
-/
theorem failures_in_a_row (run : Run limits history r) :
    (∀ path, r.failures.ofPath path = streak (.path path.fingerprint) history ∧
      r.failures.ofPath path < max limits.path 1) ∧
    (∀ node, r.failures.ofNode node = streak (.node node) history ∧
      r.failures.ofNode node < max limits.node 1) ∧
    ∀ call : Sending, ∃ r', call.Accounts limits history r r' := by
  have tells := run.tells
  have below (leg : Leg) : r.failures.count leg < limits.trip leg := by
    rw [tells.count]
    exact tells.low leg
  refine ⟨fun path => ⟨tells.count (.path path.fingerprint), below (.path path.fingerprint)⟩,
    fun node => ⟨tells.count (.node node), below (.node node)⟩, tells.accounts⟩

/-- **The second failure in a row**, where two are the limit: the path had failed once, and now its
hops are gone. -/
theorem failures_in_a_row_second :
    ∃ (limits : Limits) (history : List Sent) (r r' : Router) (call : Sending) (path : Path),
      Run limits history r ∧ r.failures.ofPath path = 1 ∧ call.Accounts limits history r r' ∧
      path ∈ pathsAt r.cache.store.row? ∧
      ∀ hop, r'.cache.store.row? (hopCell path.index hop) = none := by
  let limits : Limits := { path := 2 }
  let cache : PathCache := stateAfter (PathM.setPaths firstHops) { store := {} }
  let path : Path := ⟨0, digitHops '1' '2' '3'⟩
  let call : Sending :=
    { target := .node none (digitNode '1'), payload := []
      network := fun _ => .error (.path "down"), shuffle := .byPlaces [], draw := 0 }
  have works : cache.store.Works := fun _ _ => rfl
  have paths : pathsAt cache.store.row? = [path, ⟨1, digitHops '2' '3' '1'⟩] := by
    have one := readable_digitNode (.inl rfl)
    have two := readable_digitNode (.inr (.inl rfl))
    have three := readable_digitNode (.inr (.inr rfl))
    have readable : ∀ node ∈ (digitHops '1' '2' '3').toList ++ (digitHops '2' '3' '1').toList,
        node.Readable := List.forall_mem_append.mpr
      ⟨readable_digitHops one two three, readable_digitHops two three one⟩
    obtain ⟨c, ran, -, held⟩ :=
      Build.pathsAt_setPaths (c := { store := {} }) (fun _ _ => rfl) (by decide) readable
    rwa [← stateAfter_of_ok ran] at held
  have picked : RouterM.pick? (pathsAt cache.store.row?) 0 = some path := by
    rw [paths]
    rfl
  let request : Request := { path, node := digitNode '1', payload := [] }
  let failed (tripped : Bool) : Sent := { request, outcome := .error (.path "down"), tripped }
  -- the path fails once, and is there for the next request
  let r₀ : Router := { cache, limits }
  let r : Router := { stateAfter call.action r₀ with cache }
  have first : call.sent? r₀ = some (failed false) := call.sent?_of_complete r₀ works rfl picked
  have start : Run limits [] r₀ := .start rfl rfl works
  have run : Run limits [failed false] r := (start.sent first).elsewhere works
  obtain ⟨counts, -, calls⟩ := failures_in_a_row run
  have once : streak (.path path.fingerprint) [failed false] = 1 := streak_cons_of_failed rfl []
  -- so it trips with the second
  obtain ⟨r', accounts⟩ := calls call
  have second := call.sent?_of_complete r works rfl picked
  have trips := (accounts.trips _ second).mpr ⟨.path path.fingerprint, rfl, congrArg (· + 1) once⟩
  have noted := accounts.noted _ second
  have counted : r.failures.ofPath path = 1 := (counts path).1.trans once
  refine ⟨limits, _, r, r', call, path, run, counted, accounts, ?_, fun hop => ?_⟩
  · rw [paths]
    exact .head _
  · exact (noted.hops 0 hop).trans (if_pos ⟨(Sent.trips_of_failed rfl).trans trips, rfl⟩)

/-! ### What trips and stays -/

/-- A node with the keys of another one, at another port. -/
def twinNode (digit : Char) : Node :=
  { digitNode digit with port := 22022 }

/-- A twin has an address and two keys. -/
theorem sound_twinNode {digit : Char} (known : digit = '1' ∨ digit = '2' ∨ digit = '3') :
    (twinNode digit).Sound where
  address := by
    refine ⟨'s', "torage".toList, ?_, rfl⟩
    change "storage".toList = _
    decide +kernel
  ed25519 := .of_checkKey (checkKey_digits known "")
  x25519 := .of_checkKey (checkKey_digits known "")

/-- A path over three nodes. -/
def digitPath (index : Fin pathCount) : Path :=
  ⟨index, digitHops '1' '2' '3'⟩

/-- The hops of a path over their twins. -/
def twinHops : Hops :=
  #v[twinNode '1', twinNode '2', twinNode '3']

/-- A path over their twins. -/
def twinPath (index : Fin pathCount) : Path :=
  ⟨index, twinHops⟩

/-- The two paths are put into a cache. -/
def twinCache (c : PathCache) : PathCache :=
  stateAfter (PathM.setPaths [digitHops '1' '2' '3', twinHops]) c

/-- A router with the two paths. -/
def twinRouter (c : PathCache) (limits : Limits) : Router :=
  { cache := twinCache c, limits }

/-- Both paths are in the rows of the cache. -/
theorem pathsAt_twinCache {c : PathCache} (works : c.store.Works) :
    pathsAt (twinCache c).store.row? = [digitPath 0, twinPath 1] := by
  have readable : ∀ node ∈ (digitHops '1' '2' '3').toList ++ twinHops.toList, node.Readable := by
    refine List.forall_mem_append.mpr ⟨readable_digitHops (readable_digitNode (.inl rfl))
      (readable_digitNode (.inr (.inl rfl))) (readable_digitNode (.inr (.inr rfl))), ?_⟩
    intro node mem
    obtain rfl | rfl | rfl : node = twinNode '1' ∨ node = twinNode '2' ∨ node = twinNode '3' := by
      simpa [twinHops] using mem
    · exact (sound_twinNode (.inl rfl)).parse_text
    · exact (sound_twinNode (.inr (.inl rfl))).parse_text
    · exact (sound_twinNode (.inr (.inr rfl))).parse_text
  obtain ⟨c', ran, -, held⟩ := Build.pathsAt_setPaths (c := c) works (by decide) readable
  rwa [← stateAfter_of_ok ran] at held

/-- Storing the paths leaves the rows of other tables alone. -/
theorem row?_twinCache (c : PathCache) (cell : Cell) (other : cell.table ≠ .onionPaths) :
    (twinCache c).store.row? cell = c.store.row? cell :=
  (PathM.stays_setPaths _).rows _ cell other

/-- A request to a node over one of the paths, and the path or the node fails. -/
def failing (draw : Nat) (swarm : Option String) (fault : LegFault) : Sending where
  target := .node swarm (digitNode '1')
  payload := []
  network _ := .error fault
  shuffle := .byPlaces []
  draw := draw

/-- The pool holds a node, and the row of a swarm cannot be read. -/
def unreadSwarm : Store :=
  (stateAfter (Pool.set (.ofList [digitNode '1'])) {}).insert (Swarm.cell "05aa") [255]

/-- The row of the swarm stays unreadable. -/
theorem nodesAt?_unreadSwarm (limits : Limits) :
    nodesAt? (twinRouter { store := unreadSwarm } limits).cache.store.row? (Swarm.cell "05aa") =
      none := by
  have stored := row?_twinCache { store := unreadSwarm } (Swarm.cell "05aa") (by decide)
  refine (nodesAt?_congr stored).trans ?_
  rw [unreadSwarm, nodesAt?, Store.row?_insert, if_pos rfl]
  rfl

/-- The pool holds the node. -/
theorem nodesAt?_pool_unreadSwarm (limits : Limits) :
    nodesAt? (twinRouter { store := unreadSwarm } limits).cache.store.row? Pool.cell =
      some (.ofList [digitNode '1']) := by
  have stored := row?_twinCache { store := unreadSwarm } Pool.cell (by decide)
  refine (nodesAt?_congr stored).trans (nodesAt?_of_row (fun node mem => ?_) (by rfl)
    (by decide +kernel))
  rw [Std.ExtTreeSet.mem_ofList, List.contains_iff_mem, List.mem_singleton] at mem
  rw [mem]
  exact readable_digitNode (.inl rfl)

/-- **What trips and stays.** Two paths have one fingerprint, and two failures are the limit. One
failure on each of them reaches it; then the path that failed last is dropped, and the other one
stays. A node trips that was chosen from a swarm whose row cannot be read. The call fails before it
gets to the pool, and the pool keeps the node. -/
theorem tripped_and_kept :
    (let once := failing 0 none (.path "down")
      let again := failing 1 none (.path "down")
      let r₁ := stateAfter once.action (twinRouter { store := {} } { path := 2 })
      let r₂ := stateAfter again.action r₁
      digitPath 0 ∈ pathsAt r₁.cache.store.row? ∧ r₁.failures.ofPath (digitPath 0) = 1 ∧
        (∃ sent ∈ again.sent? r₁, sent.trips (.path (digitPath 0).fingerprint)) ∧
        ∀ hop, r₂.cache.store.row? (hopCell (digitPath 0).index hop) =
          r₁.cache.store.row? (hopCell (digitPath 0).index hop)) ∧
    (let call := failing 0 (some "05aa") (.node "down")
      let r := twinRouter { store := unreadSwarm } { node := 1 }
      (∃ sent ∈ call.sent? r, sent.trips (.node (digitNode '1'))) ∧
        ∃ pool, nodesAt? (stateAfter call.action r).cache.store.row? Pool.cell = some pool ∧
          digitNode '1' ∈ pool) := by
  constructor
  · intro once again
    have start : Run { path := 2 } [] (twinRouter { store := {} } { path := 2 }) :=
      .start rfl rfl fun _ _ => rfl
    have paths : pathsAt (twinRouter { store := {} } { path := 2 }).cache.store.row? =
        [digitPath 0, twinPath 1] := pathsAt_twinCache fun _ _ => rfl
    -- from here on only its run and its paths are known of the router
    generalize twinRouter { store := {} } { path := 2 } = r at start paths ⊢
    dsimp only
    -- the first failure does not reach the limit, and no hop is dropped
    have picked : RouterM.pick? (pathsAt r.cache.store.row?) once.draw = some (digitPath 0) := by
      rw [paths]
      rfl
    obtain ⟨sent, made, failed, trips, hops⟩ :=
      start.tells.path_fails once rfl picked fun _ => rfl
    have calm : sent.tripped = false := Bool.eq_false_iff.mpr fun tripped => by
      cases trips.mp tripped
    have paths : pathsAt (stateAfter once.action r).cache.store.row? =
        [digitPath 0, twinPath 1] := by
      rw [← paths]
      refine pathsAt_congr fun index hop => (hops index hop).trans (if_neg fun here => ?_)
      cases calm.symm.trans here.1
    have run := start.sent made
    have counted : streak (.path (digitPath 0).fingerprint) [sent] = 1 := by
      rw [streak_cons_of_failed failed, calm]
      rfl
    -- the second one does, for the count is that of both paths, but it drops the hops of one
    have picked : RouterM.pick? (pathsAt (stateAfter once.action r).cache.store.row?) again.draw =
        some (twinPath 1) := by
      rw [paths]
      rfl
    obtain ⟨sent', made', failed', trips', hops'⟩ :=
      run.tells.path_fails again rfl picked fun _ => rfl
    have tripped : sent'.tripped := trips'.mpr (congrArg (· + 1) counted)
    refine ⟨by rw [paths]; exact .head _,
      by rw [Failures.ofPath_eq_count, run.tells.count, counted],
      ⟨sent', made', (Sent.trips_of_failed failed').trans tripped⟩, fun hop => ?_⟩
    refine (hops' _ hop).trans (if_neg fun here => ?_)
    cases here.2
  · intro call
    have works : (twinRouter { store := unreadSwarm } { node := 1 }).cache.store.Works :=
      fun _ _ => rfl
    have start : Run { node := 1 } [] (twinRouter { store := unreadSwarm } { node := 1 }) :=
      .start rfl rfl works
    have paths : pathsAt (twinRouter { store := unreadSwarm } { node := 1 }).cache.store.row? =
        [digitPath 0, twinPath 1] := pathsAt_twinCache fun _ _ => rfl
    have unread := nodesAt?_unreadSwarm { node := 1 }
    have pool := nodesAt?_pool_unreadSwarm { node := 1 }
    generalize twinRouter { store := unreadSwarm } { node := 1 } = r
      at works start paths unread pool ⊢
    dsimp only
    have picked : RouterM.pick? (pathsAt r.cache.store.row?) call.draw = some (digitPath 0) := by
      rw [paths]
      rfl
    have sent := call.sent?_of_complete _ works rfl picked
    have accounts := start.tells.accounts_stateAfter call
    have trips := (accounts.trips _ sent).mpr ⟨.node (digitNode '1'), rfl, rfl⟩
    have tripped : Sent.trips _ (.node (digitNode '1')) := (Sent.trips_of_failed rfl).trans trips
    refine ⟨⟨_, sent, tripped⟩, .ofList [digitNode '1'], ?_, ?_⟩
    · have same := (accounts.complete (by rw [paths]; nofun)).1
      have unread : nodesAt? (call.prepared r).row? (Swarm.cell "05aa") = none := by
        rw [same, unread]
      -- the call fails at the swarm, so the row of the pool is that of the store it began with
      have kept := ((accounts.noted _ sent).drops tripped).poolKept "05aa" rfl unread
      rw [nodesAt?_congr kept, same, pool]
    · exact Std.ExtTreeSet.mem_ofList.mpr rfl

end Router

end ConfigReplica.Routing
