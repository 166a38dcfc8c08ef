import ConfigReplica.Proofs.Routing.Settling

/-!
# Sending requests

A call chooses a node and a path, sends the request and takes note of what becomes of it
(`Sending.action_eq`). Choosing leaves all rows alone but those of hops, and these too if both paths
are complete (`Chooses`); otherwise the paths are built first. What the network makes of the
request, which path is picked and which member of a swarm are part of the call (`Sending`), so that
nothing is assumed of them.
-/

namespace ConfigReplica.Routing

/-! ### Choosing a path -/

/-- What choosing a node and a path for a request leaves alone: the counts, what the store refuses,
and all rows but those of hops; and these too if the paths are complete. -/
structure Chooses (r r' : Router) : Prop where
  limits : r'.limits = r.limits
  failures : r'.failures = r.failures
  fault : r'.cache.store.fault = r.cache.store.fault
  others : ∀ cell, cell.table ≠ .onionPaths → r'.cache.store.row? cell = r.cache.store.row? cell
  complete : pathsAt r.cache.store.row? ≠ [] → r'.cache.store.row? = r.cache.store.row?

namespace Chooses

variable {r r' r'' : Router}

theorem refl (r : Router) : Chooses r r :=
  ⟨rfl, rfl, rfl, fun _ _ => rfl, fun _ => rfl⟩

theorem trans (first : Chooses r r') (second : Chooses r' r'') : Chooses r r'' where
  limits := second.limits.trans first.limits
  failures := second.failures.trans first.failures
  fault := second.fault.trans first.fault
  others cell other := (second.others cell other).trans (first.others cell other)
  -- paths that were complete before the first choice are so before the second
  complete complete := by
    have same := first.complete complete
    rw [second.complete (same ▸ complete), same]

end Chooses

/-- Complete paths are given as they are, and no row changes. -/
theorem PathM.pathsOrRebuild_of_complete (shuffle : Shuffle) {c : PathCache}
    (complete : pathsAt c.store.row? ≠ []) :
    (stateAfter (pathsOrRebuild shuffle) c).store.row? = c.store.row? ∧
      ∀ ps c', pathsOrRebuild shuffle c = .ok ps c' → ps = pathsAt c.store.row? := by
  have keeps := reads_paths.keeps c
  unfold pathsOrRebuild
  cases ran : paths c with
  | error error c' =>
    rw [stateAfter_of_error ran] at keeps
    rw [stateAfter_of_error (bind_of_error ran), bind_of_error ran]
    exact ⟨keeps, nofun⟩
  -- the paths were read, so they are those of the rows; there is a first, so none are built
  | ok found c' =>
    rw [stateAfter_of_ok ran] at keeps
    rw [stateAfter_bind_of_ok ran, bind_of_ok ran]
    obtain rfl := reads_paths.gives ran
    cases found : pathsAt c.store.row? with
    | nil => exact absurd found complete
    | cons path rest =>
      refine ⟨keeps, fun ps c'' given => ?_⟩
      cases given
      rfl

namespace RouterM

variable {r : Router}

/-- The node or the path that is picked is one of those that there are. -/
theorem mem_of_pick? {α : Type} {items : List α} {draw : Nat} {item : α}
    (picked : pick? items draw = some item) : item ∈ items :=
  List.mem_of_getElem? picked

/-- Choosing a path leaves all alone but the hops, which are built where paths are missing. -/
theorem chooses_route (shuffle : Shuffle) (draw : Nat) (r : Router) :
    Chooses r (stateAfter (route shuffle draw) r) := by
  have asks : Chooses r (stateAfter (onPaths (PathM.pathsOrRebuild shuffle)) r) := by
    have stays := PathM.stays_pathsOrRebuild shuffle
    rw [stateAfter_onPaths]
    exact ⟨rfl, rfl, stays.fault _, stays.rows _, fun complete =>
      (PathM.pathsOrRebuild_of_complete shuffle complete).1⟩
  refine stateAfter_bind (R := Chooses) .trans asks fun paths r' => ?_
  split <;> exact .refl r'

/-- Where the paths are complete, the one that is chosen is among them. -/
theorem route_of_complete {shuffle : Shuffle} {draw : Nat} {path : Path} {r' : Router}
    (complete : pathsAt r.cache.store.row? ≠ []) (ran : route shuffle draw r = .ok path r') :
    path ∈ pathsAt r.cache.store.row? := by
  obtain ⟨paths, r₁, asked, given⟩ := bind_eq_ok.mp ran
  -- the paths it was chosen from are the complete ones
  have found : paths = pathsAt r.cache.store.row? := by
    unfold onPaths at asked
    cases built : PathM.pathsOrRebuild shuffle r.cache with
    | error error c =>
      rw [built] at asked
      cases asked
    | ok paths' c =>
      rw [built] at asked
      cases asked
      exact (PathM.pathsOrRebuild_of_complete shuffle complete).2 _ _ built
  cases picked : pick? paths draw with
  | none =>
    rw [picked] at given
    cases given
  | some path' =>
    rw [picked] at given
    cases given
    exact found ▸ mem_of_pick? picked

/-- The result of an action whose error is kept. -/
theorem attempt_of_ok {α : Type} {action : RouterM α} {x : α} {r' : Router}
    (ran : action r = .ok x r') : attempt action r = .ok (.ok x) r' := by
  rw [attempt, ran]

/-- The error that is kept. -/
theorem attempt_of_error {α : Type} {action : RouterM α} {error : Error} {r' : Router}
    (ran : action r = .error error r') : attempt action r = .ok (.error error) r' := by
  rw [attempt, ran]

/-- Sending to a node comes to nothing without a path. -/
theorem send_of_error {network : Network} {shuffle : Shuffle} {draw : Nat} {error : Error}
    {r' : Router} (failed : route shuffle draw r = .error error r') (swarm : Option String)
    (node : Node) (payload : Bytes) :
    send network shuffle draw swarm node payload r =
      .ok { request := none, answer := .error error } r' :=
  bind_of_ok (attempt_of_error failed)

/-- What became of a request that was sent over a path is noted. -/
theorem send_of_ok {network : Network} {shuffle : Shuffle} {draw : Nat} {path : Path} {r' : Router}
    (routed : route shuffle draw r = .ok path r') (swarm : Option String) (node : Node)
    (payload : Bytes) :
    let request : Request := { path, node, payload }
    ∃ answer, send network shuffle draw swarm node payload r =
      .ok { request := some request, answer }
        (stateAfter (settle swarm request (network request)) r') := by
  obtain ⟨answer, settled⟩ := attempt_eq
    (settle swarm { path, node, payload } (network { path, node, payload })) r'
  exact ⟨answer, (bind_of_ok (attempt_of_ok routed)).trans (bind_of_ok settled)⟩

/-- Where the paths are complete, a request takes the one that is picked. -/
theorem exists_route_of_complete (willing : r.cache.store.Answers) {draw : Nat} {path : Path}
    (picked : pick? (pathsAt r.cache.store.row?) draw = some path) (shuffle : Shuffle) :
    ∃ r', route shuffle draw r = .ok path r' := by
  obtain ⟨c, found⟩ := PathM.paths_of_answers willing
  have built : PathM.pathsOrRebuild shuffle r.cache = .ok (pathsAt r.cache.store.row?) c := by
    unfold PathM.pathsOrRebuild
    rw [bind_of_ok found]
    cases some : pathsAt r.cache.store.row? with
    | nil =>
      rw [some] at picked
      cases picked
    | cons first rest => rfl
  refine ⟨{ r with cache := c }, ?_⟩
  unfold route
  rw [bind_of_ok (onPaths_of_ok built), picked]
  rfl

/-- Choosing a member of a swarm reads the row of the swarm. -/
theorem chooses_member (destination : String) (draw : Nat) (r : Router) :
    Chooses r (stateAfter (member destination draw) r) := by
  have asks : Chooses r (stateAfter (onStore (Swarm.get? destination)) r) := by
    have rows := Swarm.row?_stateAfter_get? destination r.cache.store
    rw [onStore, stateAfter_onPaths, PathM.stateAfter_onStore]
    exact ⟨rfl, rfl, Swarm.fault_get? destination _, fun cell _ => congrFun rows cell,
      fun _ => rows⟩
  refine stateAfter_bind (R := Chooses) .trans asks fun swarm r' => ?_
  -- there is no swarm, or it has no members, or one of them is picked
  split
  · exact .refl r'
  · split <;> exact .refl r'

end RouterM

/-! ### Sending -/

/-- Where a payload goes: to a node that was chosen, maybe from a swarm, or to a member of a
destination's swarm that is yet to be chosen. -/
inductive Target where
  | node (swarm : Option String) (node : Node)
  | member (destination : String) (draw : Nat)

/-- A call that sends a payload, with all that is up to chance. -/
structure Sending where
  target : Target
  payload : Bytes
  network : Network
  shuffle : Shuffle
  draw : Nat

namespace Sending

variable (call : Sending) (r : Router)

/-- What a call does. -/
def action : RouterM Exchange :=
  match call.target with
  | .node swarm node =>
    RouterM.send call.network call.shuffle call.draw swarm node call.payload
  | .member destination draw =>
    RouterM.sendToSwarm call.network call.shuffle draw call.draw destination call.payload

/-- The swarm that a call names. -/
def swarm : Option String :=
  match call.target with
  | .node swarm _ => swarm
  | .member destination _ => some destination

/-- The node that a call sends to. -/
def aim : RouterM Node :=
  match call.target with
  | .node _ node => pure node
  | .member destination draw => RouterM.member destination draw

/-- Makes the request of a call, but does not send it. -/
def prepare : RouterM Request := do
  let node ← call.aim
  let path ← RouterM.route call.shuffle call.draw
  pure { path, node, payload := call.payload }

/-- The store when the request is about to be sent: paths were built if there were none. -/
def prepared : Store :=
  (stateAfter call.prepare r).cache.store

/-- The request that a call sends, if it sends one. -/
def sent? : Option Sent :=
  match call.action r with
  | .ok exchange _ => exchange.request.map fun request =>
      r.failures.sent r.limits request (call.network request)
  | .error _ _ => none

/-- Making a request changes no more than choosing does. -/
theorem chooses_prepare : Chooses r (stateAfter call.prepare r) := by
  refine stateAfter_bind (R := Chooses) .trans ?_ fun node r₁ => ?_
  · unfold aim
    split
    · exact .refl r
    · exact RouterM.chooses_member _ _ r
  · refine stateAfter_bind (R := Chooses) .trans (RouterM.chooses_route _ _ r₁) fun path r₂ => ?_
    exact .refl r₂

/-- Once the node is chosen what is left is the path. -/
theorem prepare_of_aim {node : Node} {r₁ : Router} (aimed : call.aim r = .ok node r₁) :
    call.prepare r = (RouterM.route call.shuffle call.draw >>= fun path =>
      (pure { path, node, payload := call.payload } : RouterM Request)) r₁ :=
  bind_of_ok aimed

/-- Once the node is chosen, a call sends to it. -/
theorem action_of_aim {node : Node} {r₁ : Router} (aimed : call.aim r = .ok node r₁) :
    call.action r =
      RouterM.send call.network call.shuffle call.draw call.swarm node call.payload r₁ := by
  unfold aim at aimed
  unfold action swarm
  cases target : call.target with
  | node swarm own =>
    rw [target] at aimed
    cases aimed
    rfl
  | member destination draw =>
    rw [target] at aimed
    exact bind_of_ok (RouterM.attempt_of_ok aimed)

/-- Without a node a call ends there. -/
theorem action_of_aimless {error : Error} {r₁ : Router} (failed : call.aim r = .error error r₁) :
    call.action r = .ok { request := none, answer := .error error } r₁ := by
  unfold aim at failed
  unfold action
  cases target : call.target with
  | node swarm own =>
    rw [target] at failed
    cases failed
  | member destination draw =>
    rw [target] at failed
    exact bind_of_ok (RouterM.attempt_of_error failed)

/-- **A call** makes a request, sends it and takes note of what becomes of it; if it cannot make
one, that is all. -/
theorem action_eq :
    match call.prepare r with
    | .ok request r₁ => ∃ answer, call.action r = .ok { request := some request, answer }
        (stateAfter (RouterM.settle call.swarm request (call.network request)) r₁)
    | .error error r₁ => call.action r = .ok { request := none, answer := .error error } r₁ := by
  -- whether there is a node decides first, and then whether there is a path
  cases aimed : call.aim r with
  | error error r₁ =>
    have failed : call.prepare r = .error error r₁ := bind_of_error aimed
    rw [failed]
    exact call.action_of_aimless r aimed
  | ok node r₁ =>
    rw [call.prepare_of_aim r aimed, call.action_of_aim r aimed]
    cases routed : RouterM.route call.shuffle call.draw r₁ with
    | error error r₂ =>
      rw [bind_of_error routed]
      exact RouterM.send_of_error routed _ _ _
    | ok path r₂ =>
      rw [bind_of_ok routed]
      exact RouterM.send_of_ok routed _ _ _

/-- Where the paths are complete, the request takes one of them. -/
theorem path_of_complete {request : Request} {r' : Router}
    (complete : pathsAt r.cache.store.row? ≠ []) (made : call.prepare r = .ok request r') :
    request.path ∈ pathsAt r.cache.store.row? := by
  obtain ⟨node, r₁, aimed, made⟩ := bind_eq_ok.mp made
  obtain ⟨path, r₂, routed, made⟩ := bind_eq_ok.mp made
  cases made
  -- choosing the node changed no row
  have same : r₁.cache.store.row? = r.cache.store.row? := by
    have chooses : Chooses r (stateAfter call.aim r) := by
      unfold aim
      split
      · exact .refl r
      · exact RouterM.chooses_member _ _ r
    rw [stateAfter_of_ok aimed] at chooses
    exact chooses.complete complete
  rw [← same]
  exact RouterM.route_of_complete (same ▸ complete) routed

/-- **One call**, over a store that refuses nothing: no request is made and nothing is counted, or
one is sent and what becomes of it is noted. -/
theorem call_cases (works : r.cache.store.Works) :
    (∃ exchange c, call.action r = .ok exchange { r with cache := c } ∧ call.sent? r = none ∧
      c.store.fault = r.cache.store.fault ∧ c.store = call.prepared r) ∨
    ∃ exchange request c, call.action r = .ok exchange
        { r with
          cache := c
          failures := (r.failures.note r.limits request (call.network request)).2 } ∧
      call.sent? r = some (r.failures.sent r.limits request (call.network request)) ∧
      c.store.fault = r.cache.store.fault ∧
      Noted call.swarm (r.failures.sent r.limits request (call.network request)) (call.prepared r)
        c.store ∧
      (pathsAt r.cache.store.row? ≠ [] → request.path ∈ pathsAt r.cache.store.row?) := by
  have chooses := call.chooses_prepare r
  have acts := call.action_eq r
  unfold prepared sent?
  cases made : call.prepare r with
  -- no request was made, so all that changed are the rows of hops
  | error error r₁ =>
    rw [made] at acts
    rw [stateAfter_of_error made] at chooses ⊢
    have same : r₁ = { r with cache := r₁.cache } := by
      rw [← chooses.limits, ← chooses.failures]
    refine .inl ⟨_, r₁.cache, acts.trans (congrArg _ same), ?_, chooses.fault, rfl⟩
    rw [acts]
    rfl
  -- the request was sent over the path that was chosen, and its outcome noted
  | ok request r₁ =>
    rw [made] at acts
    rw [stateAfter_of_ok made] at chooses ⊢
    obtain ⟨answer, acts⟩ := acts
    have works₁ : r₁.cache.store.Works := works.of_fault chooses.fault
    obtain ⟨c, settled, fault, noted⟩ :=
      RouterM.stateAfter_settle call.swarm request works₁ (call.network request)
    rw [settled, chooses.limits, chooses.failures] at acts
    rw [chooses.limits, chooses.failures] at noted
    refine .inr ⟨_, request, c, acts, ?_, fault.trans chooses.fault, noted, fun complete =>
      call.path_of_complete r complete made⟩
    rw [acts]
    rfl

/-- Where the paths are complete, a call that has its node sends a request over one of them. -/
theorem sent?_of_complete (works : r.cache.store.Works) {swarm : Option String} {node : Node}
    (target : call.target = .node swarm node) {path : Path}
    (picked : RouterM.pick? (pathsAt r.cache.store.row?) call.draw = some path) :
    let request : Request := { path, node, payload := call.payload }
    call.sent? r = some (r.failures.sent r.limits request (call.network request)) := by
  obtain ⟨r', routed⟩ := RouterM.exists_route_of_complete
    (fun past cell => works past (.read cell)) picked call.shuffle
  have aimed : call.aim r = .ok node r := by
    unfold aim
    rw [target]
    rfl
  obtain ⟨answer, sent⟩ := RouterM.send_of_ok routed call.swarm node call.payload
  rw [sent?, call.action_of_aim r aimed, sent]
  rfl

end Sending

end ConfigReplica.Routing
