import ConfigReplica.Proofs.Session.Marks

/-!
# Operations as chains of effects

Every operation of a session is a chain of effects of its deed, whether it fails or not
(`Operation.chain`). Each is followed along its definition by the rules of `Does`, so that
what is said of one operation depends on its callees only by what is said of them.

Two operations give more when they succeed: storing everything leaves no object marked
for storing (`SessionM.does_persistAll`), and a removal leaves the mark of the group, and
neither a slot nor a row of it (`SessionM.does_removeGroup`). Removing and wiping first take
objects out of their slots and then delete rows one by one; what holds meanwhile is
`SessionM.Evicted` and `SessionM.Ended`.
-/

namespace ConfigReplica

open Config

namespace Does

variable {deed : Deed} {α : Type} {P : Device → Prop} {Q : α → Device → Prop}

/-- Nothing is said of what an action gives. -/
theorem done {action : SessionM α} (does : Does deed P action Q) :
    Does deed P action fun _ _ => True :=
  does.imp id fun _ => trivial

/-- An action that only the network and the random draws take part in. -/
theorem aside {action : SessionM α} {f : Device → α} {g : Device → Device}
    (acts : ∀ d, action d = .ok (f d) (g d)) (same : ∀ d, Device.Aside d (g d))
    (framed : ∀ {d d'}, Device.Aside d d' → P d → P d') :
    Does deed P action fun _ d => P d where
  chain {d} _ _ := by
    rw [stateAfter_of_ok (acts d)]
    exact .single (.aside (same d))
  post {d x d'} _ holds ran := by
    rw [acts] at ran
    cases ran
    exact framed (same d) holds

/-- An action may rely on something that it need not know. -/
theorem ofExists {ι : Type} {P : ι → Device → Prop} {action : SessionM α}
    (each : ∀ i, Does deed (P i) action Q) : Does deed (fun d => ∃ i, P i d) action Q where
  chain tidy := fun ⟨i, holds⟩ => (each i).chain tidy holds
  post tidy := fun ⟨i, holds⟩ => (each i).post tidy holds

/-- What is done with one item after the other is done with all of them, if it is not
undone by the rest. -/
theorem forM_each {γ : Type} {f : γ → SessionM PUnit} {R : γ → Device → Prop} (items : List γ)
    (each : ∀ x ∈ items, Does deed P (f x) fun _ d => P d ∧ R x d)
    (stable : ∀ {x d d'}, Device.Effect deed d d' → R x d → R x d') :
    Does deed P (items.forM f) fun _ d => P d ∧ ∀ x ∈ items, R x d := by
  induction items with
  | nil => exact pure _ fun holds => ⟨holds, fun _ mem => absurd mem List.not_mem_nil⟩
  -- what was done with the first item is framed over the rest of the list
  | cons x items ih =>
    change Does deed P (f x >>= fun _ => items.forM f) _
    have rest := ih fun y mem => each y (List.mem_cons_of_mem x mem)
    refine (each x List.mem_cons_self).bind fun _ => (rest.frame (stable (x := x))).imp id ?_
    rintro _ d ⟨⟨holds, others⟩, first⟩
    refine ⟨holds, fun y mem => ?_⟩
    rcases List.mem_cons.mp mem with rfl | mem
    · exact first
    · exact others y mem

end Does

namespace Device

/-- Some slot has the handle. -/
def InUse (d : Device) (handle : Handle) : Prop :=
  ∃ scope variant, d.Placed scope variant handle

/-- In a calm deed a handle in use stays in use. -/
theorem Effect.inUse {deed : Deed} {d d' : Device} (effect : Effect deed d d')
    (calm : deed.Calm) {handle : Handle} (used : d.InUse handle) : d'.InUse handle := by
  obtain ⟨scope, variant, placed⟩ := used
  exact ⟨scope, variant, effect.placed calm placed⟩

end Device

/-- The handles of a session are those in its slots. -/
theorem Session.mem_handles_iff {s : Session} {handle : Handle} :
    handle ∈ s.handles ↔
      ∃ (scope : Scope) (variant : Variant), (s.slot scope)[variant]? = some handle := by
  unfold handles slot
  simp only [List.mem_flatMap, List.mem_map, Prod.exists]
  -- the scope and the variant under which the handle was listed are those of its slot
  constructor
  · rintro ⟨scope, slot, mem, variant, i, mem', rfl⟩
    rw [Std.ExtTreeMap.mem_toList_iff_getElem?_eq_some] at mem mem'
    refine ⟨scope, variant, ?_⟩
    rw [Std.ExtTreeMap.getD_eq_getD_getElem?, mem]
    exact mem'
  · rintro ⟨scope, variant, placed⟩
    rw [Std.ExtTreeMap.getD_eq_getD_getElem?] at placed
    cases found : s.slots[scope]? with
    | none => simp [found] at placed
    | some slot =>
      rw [found] at placed
      exact ⟨scope, slot, by simpa using found, variant, handle, by simpa using placed, rfl⟩

namespace SessionM

open Device

variable {α : Type} {deed : Deed}

/-! ### Storing -/

/-- Storing an object by scope and variant. -/
theorem does_persist (variant : Variant) (scope : Scope) (time : Int64) :
    Does .work (fun _ => True) (persist variant scope time) fun _ _ => True := by
  unfold persist
  refine ((does_checkPresent scope).lift.imp id fun _ => trivial).bind fun _ => ?_
  exact (does_find (by trivial) variant scope).bind fun handle =>
    (does_persistObject (by trivial) handle time).done

/-- Storing the objects of a group. -/
theorem does_persistGroup (group : GroupId) (time : Int64) :
    Does .work (fun _ => True) (persistGroup group time) fun _ _ => True :=
  .forM _ fun variant _ => does_persist variant (.group group) time

/-- One object is stored, or was already; or the outcome is an error. -/
theorem does_persistIfNeeded {scope : Scope} {variant : Variant} (outcome : Except Error Nat)
    (handle : Handle) :
    Does .store (fun d => d.Placed scope variant handle) (persistIfNeeded outcome handle)
      fun outcome' d => ∀ count, outcome' = .ok count →
        (∃ count, outcome = .ok count) ∧ (d.session.object handle).needsDump = false := by
  unfold persistIfNeeded
  refine .tidied ((does_object handle).bind fun o => ?_)
  -- what is not marked is stored already; what has ended is in no slot
  by_cases idle : (!o.needsDump || o.destroyed) = true
  · rw [if_pos idle]
    refine .pure _ ?_
    rintro d ⟨⟨tidy, placed⟩, rfl⟩ count ran
    refine ⟨⟨count, ran⟩, ?_⟩
    obtain ⟨-, -, -, -, live⟩ := tidy scope variant handle placed
    simpa [live] using idle
  · rw [if_neg idle]
    refine does_now.bind fun time => ?_
    have stores : Does .store (fun d => d.Placed scope variant handle) (persistObject handle time)
        fun _ d => d.Placed scope variant handle ∧ (d.session.object handle).needsDump = false :=
      does_persistObject (by trivial) handle time
    refine (stores.attempt.imp (fun holds => holds.1.1.2) id).bind fun stored => ?_
    -- the count goes up only if this object and all before it were stored
    cases stored with
    | error error => cases outcome <;> exact .pure _ fun _ _ ran => by cases ran
    | ok done =>
      cases outcome with
      | error first => exact .pure _ fun _ _ ran => by cases ran
      | ok count => exact .pure _ fun clean _ _ => ⟨⟨count, rfl⟩, (clean done rfl).2⟩

/-- **One object after the other is stored**: if the outcome is a count, none is marked any more. -/
theorem does_persistEach (handles : List Handle) (outcome : Except Error Nat) :
    Does .store (fun d => ∀ handle ∈ handles, d.InUse handle)
      (handles.foldlM persistIfNeeded outcome) fun outcome' d => ∀ count, outcome' = .ok count →
        (∃ count, outcome = .ok count) ∧
        ∀ handle ∈ handles, (d.session.object handle).needsDump = false := by
  induction handles generalizing outcome with
  | nil => exact .pure _ fun _ count ran => ⟨⟨count, ran⟩, fun _ mem => absurd mem List.not_mem_nil⟩
  | cons handle handles ih =>
    rw [List.foldlM_cons]
    -- storing one object leaves the others where they are
    have first : Does .store (fun d => d.InUse handle) (persistIfNeeded outcome handle) _ :=
      .ofExists fun scope => .ofExists fun variant => does_persistIfNeeded outcome handle
    have first := first.frame (R := fun d => ∀ handle ∈ handles, d.InUse handle)
      fun effect used i mem => effect.inUse trivial (used i mem)
    refine (first.imp (fun used => ⟨used handle List.mem_cons_self, fun i mem =>
      used i (List.mem_cons_of_mem handle mem)⟩) id).bind fun outcome => ?_
    -- what was stored first is still stored after the rest
    refine ((ih outcome).frame (R := fun d => ∀ count, outcome = .ok count → _ ∧
      (d.session.object handle).needsDump = false) fun effect clean count ran =>
        ⟨(clean count ran).1, (effect.stored_only.2 handle).2 (clean count ran).2⟩).imp
      (fun holds => ⟨holds.2, holds.1⟩) ?_
    rintro outcome' d ⟨rest, clean⟩ count ran
    obtain ⟨⟨before, ranBefore⟩, others⟩ := rest count ran
    obtain ⟨started, this⟩ := clean before ranBefore
    refine ⟨started, fun i mem => ?_⟩
    rcases List.mem_cons.mp mem with rfl | mem
    · exact this
    · exact others i mem

/-- **Storing everything**: when it succeeds, every object in a slot is stored. -/
theorem does_persistAll :
    Does .store (fun _ => True) persistAll fun _ d => ∀ scope variant handle,
      d.Placed scope variant handle → (d.session.object handle).needsDump = false := by
  unfold persistAll
  refine does_checkOpen.bind fun _ => does_session.bind fun s => ?_
  -- no slot changes meanwhile, so the handles taken at the start are those in use at the end
  have each := (does_persistEach s.handles (.ok 0)).frame
    (R := fun d => d.session.slots = s.slots) fun effect same => effect.stored_only.1.trans same
  refine (each.imp ?_ id).bind fun outcome => (Does.ofExcept outcome).imp id ?_
  · rintro d ⟨-, rfl⟩
    exact ⟨fun handle mem => Session.mem_handles_iff.mp mem, rfl⟩
  rintro count d ⟨⟨stored, slots⟩, ran⟩ scope variant handle placed
  refine (stored count ran).2 handle (Session.mem_handles_iff.mpr ⟨scope, variant, ?_⟩)
  unfold Placed Session.slot at placed
  rw [slots] at placed
  exact placed

/-! ### Editing and merging -/

/-- **Editing an object** through its handle. -/
theorem does_editObject (handles : deed.Handles) {step : EditM α} (plan : EditM.Plan step)
    (handle : Handle) (time : Int64) :
    Does deed (fun _ => True) (editObject handle time step) fun _ _ => True := by
  unfold editObject
  refine (does_object handle).bind fun o => ?_
  refine Does.bind (Q := fun d₀ d => o = d.session.object handle ∧ d₀ = d)
    ((Does.look fun _ => rfl).imp id fun holds => ⟨holds.1.2, holds.2⟩) fun d₀ => ?_
  refine (Does.ofExcept _).bind fun edited => ?_
  refine Does.bind (Q := fun _ _ => True) (.act (fun _ => rfl) ?_ fun _ _ => trivial) fun _ => ?_
  · -- the change is an edit of the object that was looked up, at the time of the lookup
    rintro d - ⟨⟨rfl, rfl⟩, ran⟩
    exact .changed handles (.edit plan time _ ran)
  · refine Does.bind (Q := fun _ _ => True) ?_ fun _ => .pure _ id
    exact .act (f := fun d => { d with entropy := edited.entropy }) (fun _ => rfl)
      (fun _ _ => .aside {}) fun _ _ => trivial

/-- To schedule a push is to change the schedule, or nothing. -/
theorem does_schedulePush (destination : Destination) :
    Does deed (fun _ => True) (schedulePush destination) fun _ _ => True := by
  unfold schedulePush
  refine does_session.bind fun s => ?_
  split
  · exact (does_modifySchedule _ fun _ _ => trivial).imp (fun _ => trivial) id
  · exact .pure _ fun _ => trivial

/-- To listen is to change the session where no statement looks. -/
theorem does_listen : Does deed (fun _ => True) listen fun _ _ => True :=
  does_modifyAside (fun _ => {}) fun _ => trivial

/-- To tell the listener is to note it down. -/
theorem does_notify (notice : Notice) :
    Does deed (fun _ => True) (notify notice) fun _ _ => True :=
  does_modifyAside (fun _ => {}) fun _ => trivial

/-- **Editing an object** looks it up, changes it and tries to store it. -/
theorem does_edit (variant : Variant) (scope : Scope) {step : EditM α} (plan : EditM.Plan step) :
    Does .work (fun _ => True) (edit variant scope step) fun _ _ => True := by
  unfold edit
  refine (does_checkPresent scope).lift.done.bind fun _ => ?_
  refine (does_find (by trivial) variant scope).bind fun handle => does_now.bind fun time => ?_
  have edited : Does .work (fun _ => True) (editObject handle time step) fun _ _ => True :=
    does_editObject (by trivial) plan handle time
  have edited := edited.frame (R := fun d => d.Placed scope variant handle)
    fun effect => effect.placed trivial
  refine (edited.imp (fun holds => ⟨trivial, holds.1⟩) id).bind fun (changed, result) => ?_
  -- what did not change is neither stored nor pushed
  cases changed with
  | false => exact .pure _ fun _ => trivial
  | true =>
    refine does_now.bind fun time => ?_
    refine ((does_persistObject (by trivial) handle time).imp (fun holds => holds.1.2)
      id).attempt.bind fun stored => ?_
    have ending : Does .work (fun _ => True) (SessionM.ofExcept stored >>= fun _ => pure result)
        fun _ _ => True :=
      (Does.ofExcept stored).bind fun _ => .pure _ fun _ => trivial
    -- the error of the store is kept until the push is scheduled
    split
    · refine does_session.bind fun s => ?_
      exact ((does_schedulePush _).imp (fun _ => trivial) id).bind fun _ => ending
    · exact ending.imp (fun _ => trivial) id

/-- One update of a batch changes the object, or is left aside. -/
theorem does_mergeUpdate (handles : deed.Handles) (handle : Handle) (variant : Variant)
    (scope : Scope) (report : MergeReport) (update : Update) :
    Does deed (fun _ => True) (mergeUpdate handle variant scope report update) fun _ _ => True := by
  unfold mergeUpdate
  refine does_checkOpen.bind fun _ => does_session.bind fun s => ?_
  split
  · exact .pure _ fun _ => trivial
  · refine (does_object handle).bind fun o => ?_
    split
    · -- an update that is accepted is a merge of the object
      next changed o' accepted =>
      refine Does.bind (Q := fun _ _ => True) (.act (fun _ => rfl) ?_ fun _ _ => trivial)
        fun _ => .pure _ id
      rintro d - ⟨-, rfl⟩
      exact .changed handles (.merge accepted)
    · exact .pure _ fun _ => trivial
    · exact .throw _

/-- **Merging a batch** looks the object up, takes the updates one by one, and stores it. -/
theorem does_merge (variant : Variant) (scope : Scope) (updates : List Update) (time : Int64) :
    Does .work (fun _ => True) (merge variant scope updates time) fun _ _ => True := by
  unfold merge
  refine (does_checkPresent scope).lift.done.bind fun _ => ?_
  refine (does_find (by trivial) variant scope).bind fun handle => ?_
  refine (does_object handle).bind fun o => ?_
  split
  · exact .throw _
  · -- nothing that follows takes the object out of its slot
    have stays {β : Type} {action : SessionM β} {Q : β → Device → Prop}
        (does : Does .work (fun _ => True) action Q) :
        Does .work (fun d => d.Placed scope variant handle) action
          fun _ d => d.Placed scope variant handle :=
      (does.frame fun effect => effect.placed trivial).imp (fun placed => ⟨trivial, placed⟩)
        fun holds => holds.2
    refine ((stays (does_checkPresent scope).lift).imp (fun holds => holds.1) id).bind fun _ => ?_
    refine (stays (.foldlM updates _ fun report update _ =>
      does_mergeUpdate (by trivial) handle variant scope report update)).bind fun report => ?_
    -- the report, and a notice if anything changed
    have ending : Does .work (fun _ => True) (do
        if report.changed then notify { variant, scope, time }
        pure report) fun _ _ => True := by
      split
      · exact (does_notify _).bind fun _ => .pure _ id
      · exact .pure _ id
    refine does_checkOpen.bind fun _ => (does_object handle).bind fun o => ?_
    cases o.needsDump with
    | true =>
      refine Does.bind (Q := fun _ _ => True) ?_ fun _ => ending
      exact (does_persistObject (by trivial) handle time).imp (fun holds => holds.1.1)
        fun _ => trivial
    | false => exact ending.imp (fun _ => trivial) id

/-- Merging into a copy at hand. -/
theorem does_mergeObject (handles : deed.Handles) (handle : Handle) (id : String) (data : Bytes) :
    Does deed (fun _ => True) (mergeObject handle id data) fun _ _ => True := by
  unfold mergeObject
  refine (does_object handle).bind fun o => (Does.ofExcept _).bind fun (changed, o') => ?_
  refine Does.bind (Q := fun _ _ => True) (.act (fun _ => rfl) ?_ fun _ _ => trivial)
    fun _ => .pure _ fun _ => trivial
  rintro d - ⟨⟨-, rfl⟩, accepted⟩
  exact .changed handles (.merge accepted)

/-! ### Pushes -/

/-- To wrap a message takes the keys and some random draws. -/
theorem does_wrap (message : Bytes) (domain : String) (recipient : Identity)
    (group : Option GroupId) :
    Does deed (fun _ => True) (wrap message domain recipient group) fun _ _ => True :=
  .aside (f := fun d => (d.session.ring.wrap d.entropy message domain recipient group).1)
    (g := fun d => { d with
      entropy := (d.session.ring.wrap d.entropy message domain recipient group).2 })
    (fun _ => rfl) (fun _ => {}) fun _ => id

/-- One object's push, if it has local changes. -/
theorem does_pendingPush (scope : Scope) (variant : Variant) :
    Does .work (fun _ => True) (pendingPush scope variant) fun _ _ => True := by
  unfold pendingPush
  refine (does_read (by trivial) variant scope).bind fun o => ?_
  split
  · exact .pure _ fun _ => trivial
  · refine does_session.bind fun s => ?_
    exact ((does_wrap _ _ _ _).imp (fun _ => trivial) id).bind fun _ => .pure _ id

/-- The pushes of a scope, variant by variant. -/
theorem does_pendingPushes (destination : Destination) :
    Does .work (fun _ => True) (pendingPushes destination) fun _ _ => True :=
  (Does.mapM _ fun variant _ => does_pendingPush destination.scope variant).bind fun _ =>
    .pure _ id

/-- **An acknowledgement** looks the object up, takes note of the hash, and stores the object. -/
theorem does_confirm (variant : Variant) (scope : Scope) (seqno : UInt64) (hash : String) :
    Does (.confirm scope) (fun _ => True) (confirm variant scope seqno hash) fun _ _ => True := by
  unfold confirm
  refine (does_checkPresent scope).lift.done.bind fun _ => ?_
  have finds : Does (.confirm scope) (fun _ => True) (find variant scope) fun handle d =>
      d.Placed scope variant handle := does_find (by trivial) variant scope
  -- the object that is found is one of the scope
  refine Does.bind (Q := fun handle d => d.Placed scope variant handle ∧
    (d.session.object handle).scope = scope) ⟨finds.chain, ?_⟩ fun handle => ?_
  · intro d handle d' tidy holds ran
    have chain := finds.chain tidy holds
    rw [stateAfter_of_ok ran] at chain
    have placed := finds.post tidy holds ran
    exact ⟨placed, (chain.tidy tidy scope variant handle placed).2.2.1⟩
  refine (does_object handle).bind fun o => ?_
  split
  · exact .throw _
  · refine Does.bind (Q := fun _ d => d.Placed scope variant handle)
      (.act (fun _ => rfl) ?_ ?_) fun _ => does_now.bind fun time => ?_
    · -- taking note of it is the one change that is no work but a confirmation
      rintro d - ⟨⟨placed, rfl⟩, rfl⟩
      exact .changed trivial (.confirm seqno hash)
    · exact fun _ holds => holds.1.1
    · refine ((does_persistObject (by trivial) handle time).imp (fun holds => holds.1)
        fun _ => trivial).bind fun _ => .pure _ id

/-! ### Removal -/

/-- A rejoin changes the marks, at whatever time it is. -/
theorem does_rejoinGroup (group : GroupId) :
    Does (.rejoin group) (fun _ => True) (rejoinGroup group) fun _ _ => True := by
  unfold rejoinGroup
  refine Does.imp (P := fun d => ∃ time, d.clock = time) (.ofExists fun time => ?_)
    (fun _ => ⟨_, rfl⟩) id
  exact (does_updateMarks (.rejoin group)).done

/-- Removing a group puts nothing into a slot. -/
theorem placed_of_remove {d d' : Device} {group : GroupId} (effect : Effect (.remove group) d d')
    {scope : Scope} {variant : Variant} {handle : Handle}
    (placed : d'.Placed scope variant handle) : d.Placed scope variant handle := by
  -- looking up is none of the deeds of a removal, so nothing is put into a slot
  cases effect with
  | aside same => exact same.placed_iff.mp placed
  | touched handles => exact handles.elim
  | adopted handles => exact handles.elim
  | evicted => exact placed_of_evicted placed
  | _ => exact placed

/-- The row of an object of the group is gone. -/
def Unstored (group : GroupId) (variant : Variant) (d : Device) : Prop :=
  d.store.row? ((Scope.group group).cell variant) = none

/-- A row that is gone stays gone: a removal writes no object. -/
theorem unstored_of_remove {d d' : Device} {group : GroupId}
    (effect : Effect (.remove group) d d') {variant : Variant} (none : Unstored group variant d) :
    Unstored group variant d' := by
  refine Option.eq_none_iff_forall_ne_some.mpr fun bytes row => ?_
  rcases effect.row_cases row with before | writes
  · cases none.symm.trans before
  · -- it could be written as the row of the marks only, which is another one
    generalize place : (Scope.group group).cell variant = cell at writes
    cases writes with
    | marks change known => cases congrArg Cell.table place
    | object stores => exact stores.elim

/-- What holds while the rows of a removed group are deleted: the group is marked, its slot
is empty, and the objects that were in it are in no other. -/
structure Evicted (group : GroupId) (slot : Std.ExtTreeMap Variant Handle) (time : Int64)
    (d : Device) : Prop where
  clock : d.clock = time
  marked : d.Marked group time
  vacant : ∀ variant handle, ¬ d.Placed (.group group) variant handle
  loose : ∀ (variant : Variant) (handle : Handle), slot[variant]? = some handle →
    ∀ scope v, ¬ d.Placed scope v handle

/-- What holds while the rows are deleted is kept by each of the steps. -/
theorem Evicted.keeps {d d' : Device} {group : GroupId} {slot : Std.ExtTreeMap Variant Handle}
    {time : Int64} (effect : Effect (.remove group) d d') (evicted : Evicted group slot time d) :
    Evicted group slot time d' := by
  have clock := evicted.clock
  subst clock
  refine ⟨effect.steady.1, ?_, ?_, ?_⟩
  · exact effect.marked (cutoff_le _ _) ⟨by simp, by simp, fun _ => Int64.le_refl _⟩ evicted.marked
  · exact fun variant handle placed =>
      evicted.vacant variant handle (placed_of_remove effect placed)
  · exact fun variant handle mem scope v placed =>
      evicted.loose variant handle mem scope v (placed_of_remove effect placed)

/-- **A removal** leaves the mark of the group, and no row and no slot of it. -/
theorem does_removeGroup (group : GroupId) :
    Does (.remove group) (fun _ => True) (removeGroup group) fun _ d =>
      d.Marked group d.clock ∧ (∀ variant handle, ¬ d.Placed (.group group) variant handle) ∧
        ∀ variant ∈ Variant.ofGroup, Unstored group variant d := by
  unfold removeGroup
  refine does_now.bind fun time => ?_
  have marks : Does (.remove group) (fun d => d.clock = time)
      (updateMarks fun marks => marks.insert group time) fun _ d =>
      d.clock = time ∧ d.Marked group time := by
    refine ((does_updateMarks (.remove group)).frame (R := fun d => d.clock = time)
      fun effect same => effect.steady.1.trans same).imp (fun same => ⟨same, same⟩) ?_
    rintro _ d ⟨changed, rfl⟩
    exact ⟨rfl, marked_of_remarked changed⟩
  refine (marks.imp (fun holds => holds.2.symm) id).bind fun _ => .tidied ?_
  refine does_session.bind fun s => ?_
  let slot := s.slot (.group group)
  refine Does.bind (Q := fun _ => Evicted group slot time) ?_ fun _ => ?_
  · -- taking the slot out leaves the marks alone and the group without objects
    refine .act (fun _ => rfl) (fun _ _ => .evicted group) ?_
    rintro d - ⟨⟨tidy, clock, marked⟩, rfl⟩
    have effect : Effect (.remove group) d _ := .evicted group
    refine ⟨clock, ⟨marked.known, marked.stored⟩, ?_, ?_⟩
    · intro variant handle placed
      unfold Placed at placed
      rw [Session.slot_erase, if_pos rfl] at placed
      simp at placed
    · -- an object that is in the slot of the group is in no other, as it belongs there
      intro variant handle mem scope v placed
      have here := (tidy _ _ _ mem).2.2.1
      unfold Placed at placed
      rw [Session.slot_erase] at placed
      split at placed
      · simp at placed
      · next other => exact other ((tidy _ _ _ placed).2.2.1.symm.trans here)
  · -- for each variant the object is ended and then its row deleted, which may fail
    have deleted : ∀ variant ∈ Variant.ofGroup, Does (.remove group) (Evicted group slot time)
        (slot[variant]?.forM destroyObject >>= fun _ => deleteRow (.group group) variant)
        fun _ d => Evicted group slot time d ∧ Unstored group variant d := by
      intro variant _
      refine Does.bind (Q := fun _ => Evicted group slot time) ?_ fun _ => ?_
      · cases found : slot[variant]? with
        | none => exact .pure _ id
        | some handle =>
          refine (does_object handle).bind fun o => ?_
          refine .act (fun _ => rfl) ?_ ?_
          · rintro d - ⟨evicted, rfl⟩
            exact .destroyed (evicted.loose variant handle found)
          · rintro d - ⟨evicted, rfl⟩
            exact evicted.keeps (.destroyed (evicted.loose variant handle found))
      · have gone : Does (.remove group) (Evicted group slot time)
            (deleteRow (.group group) variant) fun _ => Unstored group variant :=
          does_delete _ _ (fun step holds => holds.keeps (effect_noted _ step)) fun _ evicted =>
            .rowDeleted variant (.inr ⟨group, rfl, rfl⟩) (evicted.vacant variant)
        exact (gone.frame Evicted.keeps).imp (fun holds => ⟨holds, holds⟩) And.symm
    refine (Does.forM_each _ deleted fun effect none => unstored_of_remove effect none).bind
      fun _ => ?_
    -- what is left is to take the destination out of the schedule, which none of this is about
    refine (does_modifySchedule _ fun _ holds => ?_).imp id ?_
    · exact ⟨holds.1.keeps (.aside {}), fun v mem => unstored_of_remove (.aside {}) (holds.2 v mem)⟩
    · rintro _ d ⟨evicted, gone⟩
      exact ⟨evicted.clock ▸ evicted.marked, evicted.vacant, gone⟩

/-! ### Watermarks -/

/-- The watermarks of a variant are in memory, or are read and kept there. -/
theorem does_watermarks (variant : Variant) :
    Does deed (fun _ => True) (watermarks variant) fun _ _ => True := by
  unfold watermarks
  refine does_session.bind fun s => ?_
  split
  · exact .pure _ fun _ => trivial
  · refine ((does_load _ _ _ fun _ => id).imp (fun _ => trivial) id).bind fun stored => ?_
    refine Does.bind (Q := fun _ _ => True) ?_ fun _ => .pure _ id
    exact (does_modifyAside (fun _ => {}) fun _ => trivial).imp (fun _ => trivial) id

/-- **Checking a change**: it is refused as stale, or its time becomes the watermark. -/
theorem does_checkChange (variant : Variant) (key : String) (time : Int64) :
    Does .change (fun _ => True) (checkChange variant key time) fun _ _ => True := by
  -- whether the watermarks can be stored makes no difference to the outcome
  have accept (marks : Watermarks) : Does .change (fun _ => True) (do
      modifySession fun s => { s with watermarks := s.watermarks.insert variant marks }
      discard (attempt
        (onStore (StoreM.save watermarksCodec .changeWatermarks variant.name marks))))
      fun _ _ => True := by
    refine (does_modifyAside (fun _ => {}) fun _ => trivial).bind fun _ => ?_
    have saves : Does .change (fun _ => True)
        (onStore (StoreM.save watermarksCodec .changeWatermarks variant.name marks))
        fun _ _ => True :=
      does_put _ _ _ (fun _ => id) (fun _ _ => .watermarkSaved variant _) fun _ => trivial
    exact saves.attempt.bind fun _ => .pure _ fun _ => trivial
  unfold checkChange
  refine (does_watermarks variant).bind fun marks => ?_
  cases marks[key]? with
  | none => exact accept _
  | some watermark =>
    by_cases stale : time ≤ watermark
    · simp only [if_pos stale]
      exact .throw _
    · simp only [if_neg stale]
      exact accept _

/-- Whether a change is allowed is what the check says, without the error. -/
theorem does_canChange (variant : Variant) (key : String) (time : Int64) :
    Does .change (fun _ => True) (canChange variant key time) fun _ _ => True := by
  unfold canChange
  refine (does_checkChange variant key time).attempt.bind fun outcome => ?_
  cases outcome <;> exact .pure _ fun _ => trivial

/-! ### Lookups -/

/-- Whether there is a conversation is read from one object, which kind of name it is decides. -/
theorem does_hasConversation (visibleOnly : Bool) (name : Option ConversationName) :
    Does .work (fun _ => True) (hasConversation visibleOnly name) fun _ _ => True := by
  have reads (variant : Variant) : Does .work (fun _ => True) (read variant .account)
      fun _ _ => True := (does_read (by trivial) variant .account).done
  have looks {β γ : Type} (outcome : Except Error β) (f : β → γ) :
      Does .work (fun _ => True) (SessionM.ofExcept outcome >>= fun x => pure (f x))
        fun _ _ => True :=
    (Does.ofExcept outcome).bind fun _ => .pure _ fun _ => trivial
  unfold hasConversation
  -- a contact, by whether it is the user; then a group, a community, and no name at all
  split
  · refine does_session.bind fun s => ?_
    split
    · exact ((reads _).imp (fun _ => trivial) id).bind fun o => looks _ _
    · exact ((reads _).imp (fun _ => trivial) id).bind fun o => looks _ _
  · exact (reads _).bind fun o => looks _ _
  · exact (reads _).bind fun o => looks _ _
  · refine Does.bind (Q := fun _ _ => True) ?_ fun _ => .pure _ id
    exact (reads _).bind fun _ => .pure _ id

/-! ### Ends -/

/-- Closing. -/
theorem does_close : Does .close (fun _ => True) close fun _ _ => True :=
  .act (fun _ => rfl) (fun _ _ => .closed (.inl rfl)) fun _ _ => trivial

/-- The groups that a wipe knows of are read only if the session is open. -/
theorem does_recordedGroups : Does .wipe (fun _ => True) recordedGroups fun _ _ => True := by
  unfold recordedGroups
  refine does_session.bind fun s => ?_
  split
  · exact .pure _ fun _ => trivial
  · refine ((does_read (by trivial) _ _).imp (fun _ => trivial) fun _ => trivial).bind fun o => ?_
    exact (Does.ofExcept _).bind fun entries => .pure _ fun _ => trivial

/-- Ending one object. -/
theorem destroyObject_eq (handle : Handle) (d : Device) :
    destroyObject handle d =
      .ok () (d.setObject handle (d.session.object handle).destroy) := rfl

/-- Ending objects changes nothing but objects. -/
theorem destroyObjects_eq (handles : List Handle) (d : Device) :
    ∃ objects, handles.forM destroyObject d =
      .ok () { d with session := { d.session with objects } } ∧
      Session.Ends (· ∈ handles) d.session { d.session with objects } := by
  -- the induction is on the handles, over the device that the first one leaves
  induction handles generalizing d with
  | nil => exact ⟨d.session.objects, rfl, (Session.Ends.refl _).congr fun _ => by simp⟩
  | cons handle handles ih =>
    obtain ⟨objects, rest, ends⟩ := ih (d.setObject handle (d.session.object handle).destroy)
    refine ⟨objects, (bind_of_ok (destroyObject_eq handle d)).trans rest, ?_⟩
    exact ((Session.Ends.one d.session handle).trans ends).congr fun i => List.mem_cons.symm

/-- Taking all objects out of their slots. -/
theorem evictAll_eq (d : Device) :
    ∃ objects, evictAll d = .ok (d.session.slots.keys.filterMap Scope.group?)
      { d with session := { d.session with objects, slots := ∅ } } ∧
      Session.Ends (· ∈ d.session.handles) d.session { d.session with objects } := by
  obtain ⟨objects, ran, ends⟩ := destroyObjects_eq d.session.handles d
  exact ⟨objects, bind_of_ok ran, ends⟩

/-- The session has ended, and no object is in use. -/
def Ended (d : Device) : Prop :=
  d.session.closed = true ∧ ∀ scope variant handle, ¬ d.Placed scope variant handle

/-- An ended session loads nothing. -/
theorem Ended.keeps {deed : Deed} {d d' : Device} (effect : Effect deed d d') (ended : Ended d) :
    Ended d' := by
  obtain ⟨closed, vacant⟩ := ended
  cases effect with
  | aside same =>
    refine ⟨same.closed.trans closed, fun scope variant handle placed => ?_⟩
    exact vacant scope variant handle (same.placed_iff.mp placed)
  -- nothing is looked up any more, as the session is closed
  | touched handles scope isOpen => exact absurd (isOpen.symm.trans closed) (by simp)
  | adopted handles isOpen => exact absurd (isOpen.symm.trans closed) (by simp)
  | evicted group =>
    exact ⟨closed, fun scope variant handle placed => vacant _ _ _ (placed_of_evicted placed)⟩
  | closed mine => exact ⟨rfl, vacant⟩
  | cleared objects => exact ⟨closed, fun scope variant handle placed => by
      simp [Placed, Session.slot] at placed⟩
  | _ => exact ⟨closed, vacant⟩

/-- A wipe deletes the row of an object. -/
theorem does_deleteRow (scope : Scope) (variant : Variant) :
    Does .wipe Ended (deleteRow scope variant) fun _ => Ended := by
  have gone : Does .wipe Ended (deleteRow scope variant) fun _ _ => True :=
    (does_delete _ _ (fun _ ended => ended) fun _ ended =>
      .rowDeleted variant (.inl rfl) (ended.2 scope variant)).done
  exact (gone.frame Ended.keeps).imp (fun ended => ⟨ended, ended⟩) And.right

/-- A wipe deletes another row. -/
theorem does_deleteOther (table : Table) (key : String) (other : table ≠ .configs) :
    Does .wipe Ended (onStore (StoreM.delete table key)) fun _ => Ended := by
  have gone : Does .wipe Ended (onStore (StoreM.delete table key)) fun _ _ => True :=
    (does_delete _ _ (fun _ ended => ended) fun _ _ => .otherDeleted other).done
  exact (gone.frame Ended.keeps).imp (fun ended => ⟨ended, ended⟩) And.right

/-- **A wipe** closes the session, takes all objects out, deletes rows and forgets the marks. -/
theorem does_wipe : Does .wipe (fun _ => True) wipe fun _ _ => True := by
  unfold wipe
  refine does_recordedGroups.bind fun recorded => ?_
  refine Does.bind (Q := fun _ d => d.session.closed = true)
    (.act (fun _ => rfl) (fun _ _ => .closed (.inr rfl)) fun _ _ => rfl) fun _ => ?_
  -- from here on no object is in use, so that all rows may be deleted
  refine Does.bind (Q := fun _ => Ended) ⟨?_, ?_⟩ fun loaded => ?_
  · intro d _ _
    obtain ⟨objects, ran, ends⟩ := evictAll_eq d
    rw [stateAfter_of_ok ran]
    exact .single (.cleared objects ends)
  · intro d groups d' _ closed ran
    obtain ⟨objects, evicted, -⟩ := evictAll_eq d
    cases ran.symm.trans evicted
    exact ⟨closed, fun scope variant handle placed => by simp [Placed, Session.slot] at placed⟩
  · -- rows of the account, of the groups, of the watermarks and of the marks, in this order
    refine (Does.forM _ fun variant _ => does_deleteRow .account variant).bind fun _ => ?_
    refine (Does.forM _ fun group _ => .forM _ fun variant _ =>
      does_deleteRow (.group group) variant).bind fun _ => ?_
    refine (Does.forM _ fun variant _ => does_deleteOther _ _ (by simp)).bind fun _ => ?_
    refine (does_deleteOther _ _ (by simp)).bind fun _ => ?_
    refine Does.bind (Q := fun _ _ => True) ⟨?_, fun _ _ _ => trivial⟩ fun _ =>
      does_modifySchedule _ fun _ => id
    intro d _ _
    have forgotten : Effect .wipe d (d.setMarks ∅) := .forgot
    exact .tail (.single forgotten) (.aside {})

end SessionM

/-! ### All operations -/

/-- **The operations of a session**, each with its deed. Objects that were handed out can be
edited and merged into through their handles at any time, whether they are in use or not. -/
inductive Operation : Deed → {α : Type} → SessionM α → Prop
  | read (variant : Variant) (scope : Scope) : Operation .work (SessionM.read variant scope)
  | accountObjects : Operation .work SessionM.accountObjects
  | edit (variant : Variant) (scope : Scope) {α : Type} {step : EditM α} (plan : EditM.Plan step) :
      Operation .work (SessionM.edit variant scope step)
  | persist (variant : Variant) (scope : Scope) (time : Int64) :
      Operation .work (SessionM.persist variant scope time)
  | persistGroup (group : GroupId) (time : Int64) :
      Operation .work (SessionM.persistGroup group time)
  | persistAll : Operation .store SessionM.persistAll
  | merge (variant : Variant) (scope : Scope) (updates : List Update) (time : Int64) :
      Operation .work (SessionM.merge variant scope updates time)
  | pendingPushes (destination : Destination) :
      Operation .work (SessionM.pendingPushes destination)
  | confirm (variant : Variant) (scope : Scope) (seqno : UInt64) (hash : String) :
      Operation (.confirm scope) (SessionM.confirm variant scope seqno hash)
  | hasConversation (visibleOnly : Bool) (name : Option ConversationName) :
      Operation .work (SessionM.hasConversation visibleOnly name)
  | editObject (handle : Handle) (time : Int64) {α : Type} {step : EditM α}
      (plan : EditM.Plan step) : Operation .work (SessionM.editObject handle time step)
  | mergeObject (handle : Handle) (id : String) (data : Bytes) :
      Operation .work (SessionM.mergeObject handle id data)
  | removeGroup (group : GroupId) : Operation (.remove group) (SessionM.removeGroup group)
  | rejoinGroup (group : GroupId) : Operation (.rejoin group) (SessionM.rejoinGroup group)
  | checkChange (variant : Variant) (key : String) (time : Int64) :
      Operation .change (SessionM.checkChange variant key time)
  | canChange (variant : Variant) (key : String) (time : Int64) :
      Operation .change (SessionM.canChange variant key time)
  | wrap (message : Bytes) (domain : String) (recipient : Identity) (group : Option GroupId) :
      Operation .look (SessionM.wrap message domain recipient group)
  | listen : Operation .look SessionM.listen
  | schedulePush (destination : Destination) :
      Operation .look (SessionM.schedulePush destination)
  | modifySchedule (f : Schedule → Schedule) : Operation .look (SessionM.modifySchedule f)
  | close : Operation .close SessionM.close
  | wipe : Operation .wipe SessionM.wipe

/-- **Every operation is a chain of effects** of its deed, whether it fails or not. -/
theorem Operation.chain {deed : Deed} {α : Type} {action : SessionM α}
    (operation : Operation deed action) {d : Device} (tidy : d.Tidy) :
    Device.Chain deed d (stateAfter action d) := by
  -- the chain of an action is part of what it does, so each operation needs its own law only
  have chain_of {deed : Deed} {α : Type} {action : SessionM α} {Q : α → Device → Prop}
      (does : Does deed (fun _ => True) action Q) : Device.Chain deed d (stateAfter action d) :=
    does.chain tidy trivial
  cases operation with
  | read variant scope => exact chain_of (SessionM.does_read (by trivial) variant scope)
  | accountObjects => exact chain_of (SessionM.does_accountObjects (by trivial))
  | edit variant scope plan => exact chain_of (SessionM.does_edit variant scope plan)
  | persist variant scope time => exact chain_of (SessionM.does_persist variant scope time)
  | persistGroup group time => exact chain_of (SessionM.does_persistGroup group time)
  | persistAll => exact chain_of SessionM.does_persistAll
  | merge variant scope updates time => exact chain_of (SessionM.does_merge _ _ _ _)
  | pendingPushes destination => exact chain_of (SessionM.does_pendingPushes destination)
  | confirm variant scope seqno hash => exact chain_of (SessionM.does_confirm _ _ _ _)
  | hasConversation visibleOnly name => exact chain_of (SessionM.does_hasConversation _ _)
  | editObject handle time plan => exact chain_of (SessionM.does_editObject (by trivial) plan _ _)
  | mergeObject handle id data => exact chain_of (SessionM.does_mergeObject (by trivial) _ _ _)
  | removeGroup group => exact chain_of (SessionM.does_removeGroup group)
  | rejoinGroup group => exact chain_of (SessionM.does_rejoinGroup group)
  | checkChange variant key time => exact chain_of (SessionM.does_checkChange _ _ _)
  | canChange variant key time => exact chain_of (SessionM.does_canChange _ _ _)
  | wrap message domain recipient group => exact chain_of (SessionM.does_wrap _ _ _ _)
  | listen => exact chain_of SessionM.does_listen
  | schedulePush destination => exact chain_of (SessionM.does_schedulePush destination)
  | modifySchedule f => exact chain_of (SessionM.does_modifySchedule f fun _ => id)
  | close => exact chain_of SessionM.does_close
  | wipe => exact chain_of SessionM.does_wipe

end ConfigReplica
