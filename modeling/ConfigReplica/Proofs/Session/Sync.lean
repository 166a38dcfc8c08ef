import ConfigReplica.Proofs.Object.Typed
import ConfigReplica.Proofs.Session.Pushes
import ConfigReplica.Proofs.Session.RemovalHistory

/-!
# Synchronisation

Devices of an account share its keys and nothing else. What one of them changes gets to
the others in pushes: `Device.pushes_join` says that every push of an open session is
taken in by every other one, and that the object there comes to the join of both states.

* `Device.Receives`: the devices that take in what is pushed for a scope. They go on to do
  so whatever they merge (`Device.Receives.merge`), so that the pushes of a scope can be
  taken in one after the other.
* `Device.Joined`: one object came to a state, and all others are what they were.
* `SessionM.merge_of_accepted`: what one update does whose object accepts it. The object is
  found or made, takes the state over, is stored, and its change is announced.
* `PendingPush.Carries.joins`: the push of an object whose state typed edits and merges led
  to is such an update.

Only two things keep a change from getting across. A session hands out no push of a scope
as long as its store refuses one row of it, and other replicas refuse texts that are nested
too deep (`Device.pushes_withheld`).
-/

namespace ConfigReplica

open Config SessionM

namespace Device

variable {d d' : Device} {scope other : Scope} {variant v : Variant} {handle : Handle}
  {o p q : Object}

/-- The marks that a session goes by stay the same under deeds that are not about them. -/
theorem GoesBy.effect {marks : RemovalMarks} {deed : Deed} (effect : Effect deed d d')
    (keeps : deed.KeepsMarks) (goesBy : d.GoesBy marks) : d'.GoesBy marks := by
  unfold GoesBy at goesBy ⊢
  rcases effect.marks_cases keeps with kept | ⟨known, unread, stored, rfl⟩
  · rw [kept.removed]
    split
    · next known read => rwa [read] at goesBy
    · next unread =>
      rw [unread] at goesBy
      unfold MarksStored at goesBy ⊢
      rwa [kept.row]
  · -- what was read is what the row holds
    rw [unread] at goesBy
    exact goesBy.unique stored

/-- Deeds that store objects end no session. -/
theorem Effect.closed_of_stores {deed : Deed} (effect : Effect deed d d') (stores : deed.Stores) :
    d'.session.closed = d.session.closed := by
  cases effect with
  | aside same => exact same.closed
  | closed mine => rcases mine with rfl | rfl <;> exact stores.elim
  | _ => rfl

/-- Deeds that store objects leave an open session open. -/
theorem Chain.isOpen {deed : Deed} (chain : Chain deed d d') (stores : deed.Stores)
    (isOpen : d.session.closed = false) : d'.session.closed = false :=
  chain.keeps (fun effect same => (effect.closed_of_stores stores).trans same) isOpen

/-- A store that works goes on working. -/
theorem Chain.works {deed : Deed} (chain : Chain deed d d') (works : d.store.Works) :
    d'.store.Works :=
  works.of_fault (chain.keeps (fun effect same => effect.steady.2.2.2.trans same) rfl)

/-- A scope that was not removed is not removed by deeds that are not about that. -/
theorem Chain.admits {deed : Deed} (chain : Chain deed d d') (keeps : deed.KeepsMarks)
    (admits : d.Admits scope) : d'.Admits scope := by
  intro group same
  obtain ⟨marks, goesBy, lapsed⟩ := admits group same
  have cutoff : d'.cutoff = d.cutoff :=
    chain.keeps (fun effect same => effect.cutoff_eq.trans same) rfl
  exact ⟨marks, chain.keeps (fun effect => GoesBy.effect effect keeps) goesBy, cutoff ▸ lapsed⟩

/-- **A device that takes in what is pushed for a scope**: its session is open, with the keys of the
account, its store works, and the scope was not removed. -/
structure Receives (d : Device) (ring : Seal.Keyring) (scope : Scope) : Prop where
  reached : d.Reached
  isOpen : d.session.closed = false
  ring : d.session.ring = ring
  works : d.store.Works
  admits : d.Admits scope

/-- And it goes on to do so, whatever it merges. -/
theorem Receives.merge {ring : Seal.Keyring} (receives : d.Receives ring scope)
    (variant : Variant) (other : Scope) (updates : List Update) (time : Int64) :
    (stateAfter (merge variant other updates time) d).Receives ring scope := by
  have operation := Operation.merge variant other updates time
  have chain := operation.chain receives.reached.tidy
  have reached := receives.reached.trans ((Runs.refl d).act operation trivial)
  generalize stateAfter (SessionM.merge variant other updates time) d = d' at chain reached
  refine ⟨reached, chain.isOpen trivial receives.isOpen, ?_, chain.works receives.works,
    chain.admits trivial receives.admits⟩
  exact chain.keeps (fun effect same => effect.steady.2.2.1.trans same) receives.ring

/-! ### What other slots find -/

/-- What is found depends on slots, objects, rows and settings alone. -/
theorem Aside.finds_iff (same : Aside d d') :
    d'.Finds scope variant o ↔ d.Finds scope variant o := by
  unfold Finds Placed Session.slot Session.object Loads Store.row?
  rw [same.slots, same.objects, same.rows, same.settings]

/-- Another object under a handle is found in the slot of the handle only. -/
theorem finds_setObject_other (tidy : d.Tidy) (placed : d.Placed scope variant handle)
    (differs : ¬ (other = scope ∧ v = variant)) :
    (d.setObject handle o).Finds other v p ↔ d.Finds other v p := by
  refine or_congr (exists_congr fun i => and_congr_right fun here => ?_) Iff.rfl
  obtain ⟨-, -, hasScope, hasVariant, -⟩ := tidy scope variant handle placed
  obtain ⟨-, -, hasScope', hasVariant', -⟩ := tidy other v i here
  -- one handle is in one slot
  have apart : i ≠ handle := by
    rintro rfl
    exact differs ⟨hasScope'.symm.trans hasScope, hasVariant'.symm.trans hasVariant⟩
  rw [object_setObject, if_neg fun same => apart same.1]

/-- Another row is loaded into its own slot only. -/
theorem finds_setRow_other (bytes : Bytes) (differs : ¬ (other = scope ∧ v = variant)) :
    (d.setRow (scope.cell variant) bytes).Finds other v p ↔ d.Finds other v p := by
  have apart : other.cell v ≠ scope.cell variant := fun same => differs (Scope.cell_inj same)
  refine or_congr Iff.rfl (and_congr_right fun _ => ?_)
  unfold Loads
  rw [row?_setRow, if_neg apart]
  rfl

/-- **The object of a scope and variant has come to a state**, and all others are what they were. -/
structure Joined (d : Device) (scope : Scope) (variant : Variant) (s : State) (d' : Device) :
    Prop where
  here : ∃ handle, d'.Placed scope variant handle ∧ (d'.session.object handle).state = s
  others : ∀ {other v p}, ¬ (other = scope ∧ v = variant) →
    (d'.Finds other v p ↔ d.Finds other v p)

/-- Storing an object leaves its state and all other objects as they are. -/
theorem Ready.joined_dumped (ready : d.Ready scope variant handle) (time : Int64) :
    d.Joined scope variant (d.session.object handle).state (d.dumped handle time) where
  here := by
    obtain ⟨known, -⟩ := ready.tidy scope variant handle ready.placed
    refine ⟨handle, (ready.dumped time).placed, ?_⟩
    rw [object_dumped known]
    rfl
  others {other v p} differs := by
    obtain ⟨-, -, hasScope, hasVariant, -⟩ := ready.tidy scope variant handle ready.placed
    unfold Device.dumped
    dsimp only
    split
    · -- only the row of the object was written, and only its mark taken off
      let d₁ := d.noted (.write ((d.session.object handle).scope.cell
        (d.session.object handle).variant))
      have ready₁ : d₁.Ready scope variant handle := ready.aside (Aside.noted d _)
      have same : d₁.session.object handle = d.session.object handle := rfl
      rw [Device.saved, same, hasScope, hasVariant]
      exact (finds_setObject_other (ready₁.setRow _ _).tidy ready.placed differs).trans
        ((finds_setRow_other _ differs).trans (Aside.noted d _).finds_iff)
    · exact Iff.rfl

/-- What no statement speaks of makes no difference to where an object came to. -/
theorem Joined.aside {s : State} {d'' : Device} (joined : d.Joined scope variant s d')
    (same : Aside d' d'') : d.Joined scope variant s d'' where
  here := by
    obtain ⟨handle, placed, state⟩ := joined.here
    rw [← same.object] at state
    exact ⟨handle, same.placed_iff.mpr placed, state⟩
  others differs := same.finds_iff.trans (joined.others differs)

end Device

namespace SessionM

open Device

variable {d d' : Device} {scope : Scope} {variant : Variant} {handle : Handle} {o p : Object}

/-- **One update that its object accepts.** -/
theorem merge_of_accepted {ring : Seal.Keyring} (receives : d.Receives ring scope)
    (admitted : scope.admits variant = true) (finds : d.Finds scope variant p) {update : Update}
    {data : Bytes} {s : State}
    (opened : ring.unwrap update.data variant.name scope.group? = .ok data)
    (new : p.hasMerged update.hash = false) (read : p.readUpdate data = .ok s) (time : Int64) :
    ∃ d', merge variant scope [update] time d =
        .ok { merged := 1, skipped := [], changed := p.state.joinReveals s } d' ∧
      d.Joined scope variant (p.state.join s) d' ∧ d'.Receives ring scope := by
  -- the device gets to its object, since nothing is in the way
  rcases reach_cases receives.reached.tidy variant scope with ⟨_, _, -, -, never⟩ |
    ⟨handle, d₁, reaches⟩
  · exact absurd ⟨receives.isOpen, receives.admits, admitted, receives.works.answers, p, finds⟩ never
  have ready := reaches.ready
  obtain ⟨known, -, hasScope, hasVariant, live⟩ := ready.tidy scope variant handle ready.placed
  have keys : d₁.session.ring = ring := reaches.ring.trans receives.ring
  have works₁ : d₁.store.Works := receives.works.of_fault reaches.fault
  have ready₁ := ready.received d₁.session.ring [update]
  have ran := (reach_of_reaches reaches _).trans (merge_of_ready ready [update] time)
  -- the object takes the state over; where it was made, its origin plays no part in that
  obtain ⟨origin, same⟩ := reaches.object_eq finds
  generalize d₁.session.object handle = o at *
  have state : o.state = p.state := by rw [same]
  have fresh : o.hasMerged update.hash = false := by
    rw [same]
    exact new
  -- the update is opened and read, and it is news, so the object takes it over
  have taken : o.take? d₁.session.ring update =
      some (p.state.joinReveals s, o.absorb update.hash s) := by
    unfold Object.take?
    rw [keys, hasVariant, hasScope, opened]
    dsimp only
    rw [Object.merge_of_read live fresh (by rw [same]; exact read), state]
    rfl
  have received : o.received d₁.session.ring [update] = o.absorb update.hash s := by
    change o.take _ update = _
    rw [Object.take_eq, taken]
    rfl
  have report : MergeReport.of (o.outcomes d₁.session.ring [update]) =
      { merged := 1, skipped := [], changed := p.state.joinReveals s } := by
    rw [Object.outcomes, taken]
    cases p.state.joinReveals s <;> rfl
  rw [received] at ready₁
  rw [report, received] at ran
  let d₂ := d₁.setObject handle (o.absorb update.hash s)
  have now : d₂.session.object handle = o.absorb update.hash s := by
    rw [object_setObject, if_pos ⟨rfl, known⟩]
  -- the store works, so the object is stored and its change announced
  rcases conclude_cases ready₁ time { variant, scope, time }
    { merged := 1, skipped := [], changed := p.state.joinReveals s } with
    ⟨d', concluded, same, -⟩ | ⟨text, refused, -⟩
  · have ended := ran.trans concluded
    obtain ⟨i, placed, joins⟩ := ((ready₁.joined_dumped time).aside same).here
    refine ⟨d', ended, ⟨⟨i, placed, ?_⟩, ?_⟩,
      stateAfter_of_ok ended ▸ receives.merge variant scope [update] time⟩
    · rw [joins, now, ← state]
      rfl
    · intro other v q differs
      rw [((ready₁.joined_dumped time).aside same).others differs,
        finds_setObject_other ready.tidy ready.placed differs, reaches.others differs]
  · rw [show d₂.store.fault = d₁.store.fault from rfl, works₁] at refused
    cases refused

end SessionM

/-- **A push joins devices to a state**: each device of the account that takes it in, under an
identifier that its object does not remember, counts it as merged, and joins the state to that of
the object. -/
def PendingPush.Joins (push : PendingPush) (ring : Seal.Keyring) (s : State) : Prop :=
  ∀ {d : Device} {p : Object} {id : String} (time : Int64), d.Receives ring push.scope →
    d.Finds push.scope push.variant p → p.hasMerged id = false →
    ∃ d', merge push.variant push.scope [⟨id, push.data⟩] time d =
        .ok { merged := 1, skipped := [], changed := p.state.joinReveals s } d' ∧
      d.Joined push.scope push.variant (p.state.join s) d' ∧ d'.Receives ring push.scope

/-- The push of an object, if its state is one of typed edits and short enough to be read. -/
theorem PendingPush.Carries.joins {push : PendingPush} {ring : Seal.Keyring} {o : Object}
    (carries : push.Carries ring o) (admitted : o.scope.admits o.variant = true)
    (typed : o.state.IsTyped o.variant) (short : o.pushFrame.length ≤ maxSize) :
    push.Joins ring o.state := by
  intro d p id time receives finds new
  obtain ⟨variant, scope, -, nonce, sealed⟩ := carries
  rw [variant, scope] at finds ⊢
  rw [scope] at receives
  let update : Update := ⟨id, push.data⟩
  -- the message was sealed with the keys that both devices have, so it is opened
  have opened : ring.unwrap update.data o.variant.name o.scope.group? = .ok o.push.data := by
    have same : update.data = _ := sealed
    rw [same]
    exact ring.unwrap_wrapWith nonce o.scope.group? o.variant.name o.push.data
  -- and the state in it came of typed edits, so it passes the check
  have read : p.readUpdate o.push.data = .ok o.state := by
    rw [Object.readUpdate_push o p (finds.fits receives.reached.tidy).1, if_neg (not_lt.mpr short),
      typed.check]
  exact merge_of_accepted receives admitted finds opened new read time

namespace Device

/-- **Devices of an account are brought together.** An open session hands out one push for each
object of a scope with local changes, in the order of their variants, and changes no object for
that. Each push is taken in by every device of the account that admits the scope, and joins the
object there to the state of the one that was pushed.

This takes a store that gives the rows of the objects that were not in use, states that typed edits
and merges led to, and pushes that are short enough to be read. -/
theorem pushes_join {d : Device} {destination : Destination} {objects : Variant → Object}
    (reached : d.Reached) (isOpen : d.session.closed = false)
    (finds : ∀ variant ∈ destination.scope.variants,
      d.Finds destination.scope variant (objects variant))
    (gives : ∀ variant ∈ destination.scope.variants, d.Gives destination.scope variant)
    (typed : ∀ variant ∈ destination.scope.variants, (objects variant).state.IsTyped variant)
    (short : ∀ variant ∈ destination.scope.variants,
      (objects variant).pushFrame.length ≤ maxSize) :
    ∃ pushes d', pendingPushes destination d = .ok pushes d' ∧ Loaded d d' ∧
      List.Forall₂ (fun variant push => push.Carries d.session.ring (objects variant) ∧
          push.Joins d.session.ring (objects variant).state)
        (destination.scope.variants.filter fun variant => (objects variant).dirty) pushes := by
  obtain ⟨pushes, d', ran, loaded, carry⟩ :=
    pendingPushes_of_finds reached.tidy isOpen gives finds
  refine ⟨pushes, d', ran, loaded, ?_⟩
  -- each push is of an object that was found, so it is one of the scope
  have among : ∀ variant ∈ destination.scope.variants.filter fun variant => (objects variant).dirty,
      variant ∈ destination.scope.variants := fun variant mem => List.mem_of_mem_filter mem
  refine ((List.forall₂_and_left _ _).mpr ⟨among, carry⟩).imp fun variant push both => ?_
  obtain ⟨mem, carries⟩ := both
  obtain ⟨hasVariant, hasScope, -⟩ := (finds variant mem).fits reached.tidy
  refine ⟨carries, carries.joins ?_ ?_ (short variant mem)⟩
  · rw [hasVariant, hasScope]
    exact Scope.mem_variants.mp mem
  · rw [hasVariant]
    exact typed variant mem

/-- A new session, over a store that may refuse to give the row of the profile. -/
def opening (refused : Option String) : Device :=
  opened { fresh 5 with store := { fault } } fresh.ring {}
where
  /-- The row of the profile is refused. -/
  fault (_ : List Access) (step : Access) : Option String :=
    if step = .read (Scope.account.cell .userProfile) then refused else none

/-- The session once it set a field of a contact. -/
def editor (refused : Option String) : Device :=
  stateAfter (SessionM.edit .contacts .account (EditM.setField .word "contacts" "x" 1))
    (opening refused)

/-- Setting a field of a contact is an operation. -/
theorem operation_edit : Operation .work
    (SessionM.edit .contacts .account (EditM.setField .word "contacts" "x" (1 : UInt64))) :=
  .edit .contacts .account (.setField .word "contacts" "x" (1 : UInt64))

/-- The session is reached by its edit. -/
theorem reached_editor (refused : Option String) : (editor refused).Reached :=
  ⟨_, _, _, (Runs.refl _).act operation_edit trivial⟩

/-- What the store refuses is what it refused before the edit. -/
theorem fault_editor (refused : Option String) :
    (editor refused).store.fault = (opening refused).store.fault := by
  have tidy : (opening refused).Tidy := tidy_opened _ _ _
  exact (operation_edit.chain tidy).keeps (fun effect same => effect.steady.2.2.2.trans same) rfl

/-- The contacts that it edited. -/
def editedContacts : Object :=
  { newContacts with
    state := State.empty.write "contacts" "x" ⟨5, 0, some "1"⟩
    seqno := 1
    dirty := true }

/-- They came of one typed edit, of contacts without entries. -/
theorem isTyped_editedContacts : editedContacts.state.IsTyped .contacts := by
  have typed : (EditM.Plan.setField .word "contacts" "x" (1 : UInt64)).IsTyped :=
    EditM.Plan.isTyped_setField (by decide) _ _ _
  have edited : ∃ done, (Object.blank .contacts .account 0).edit 5 (.constant 0)
      (EditM.setField .word "contacts" "x" (1 : UInt64)) = .ok done ∧
      done.object.state = editedContacts.state :=
    ⟨_, rfl, by decide +kernel⟩
  obtain ⟨done, ran, same⟩ := edited
  exact same ▸ State.isTyped_of_edit typed ran

/-- The objects of the account: only the contacts were edited. -/
def editedObjects (variant : Variant) : Object :=
  if variant = .contacts then editedContacts
  else (Object.blank variant .account 0).withMemory defaultMemory

/-- All objects of the account came of typed edits. -/
theorem isTyped_editedObjects (variant : Variant) :
    (editedObjects variant).state.IsTyped variant := by
  by_cases here : variant = .contacts
  · subst here
    exact isTyped_editedContacts
  · rw [editedObjects, if_neg here]
    exact State.isTyped_empty variant

/-- These are the objects that the session has. The contacts are in memory, and there are no rows
of the others. -/
theorem finds_editor {variant : Variant} (mem : variant ∈ Scope.account.variants) :
    (editor none).Finds .account variant (editedObjects variant) := by
  by_cases here : variant = .contacts
  · subst here
    have placed : ((editor none).session.slot .account)[Variant.contacts]? = some 0 := by
      decide +kernel
    have edited : (editor none).session.object 0 = editedContacts := by decide +kernel
    exact .inl ⟨0, placed, edited⟩
  · have settings : (editor none).session.settings = {} := by decide +kernel
    have free : ∀ variant ∈ Variant.ofAccount, variant ≠ .contacts →
        ((editor none).session.slot .account)[variant]? = none ∧
          (editor none).store.row? (Scope.account.cell variant) = none := by decide +kernel
    obtain ⟨vacant, unstored⟩ := free variant mem here
    refine .inr ⟨vacant, ?_⟩
    unfold Loads
    rw [unstored, settings, editedObjects, if_neg here]
    exact ⟨0, rfl⟩

/-- A contact that was edited on one device gets to another one, which never heard of any. -/
theorem pushes_join_contact :
    ∃ d d' e e' push handle, d.Reached ∧ e.Receives d.session.ring .account ∧
      pendingPushes (.contact d.session.ring.user) d = .ok [push] d' ∧
      merge .contacts .account [⟨"m", push.data⟩] 7 e =
        .ok { merged := 1, skipped := [], changed := true } e' ∧
      e'.Placed .account .contacts handle ∧
      (e'.session.object handle).state.get? "contacts" "x" = some "1" := by
  let d := editor none
  let home : Destination := .contact d.session.ring.user
  have isOpen : d.session.closed = false := by decide +kernel
  have ring : d.session.ring = fresh.ring := by decide +kernel
  have finds : ∀ variant ∈ home.scope.variants,
      d.Finds home.scope variant (editedObjects variant) := fun _ mem => finds_editor mem
  -- the store of this session refuses nothing
  have gives : ∀ variant ∈ home.scope.variants, d.Gives home.scope variant := by
    intro variant _ _ past
    rw [fault_editor]
    exact ite_self none
  have short : ∀ variant ∈ home.scope.variants,
      (editedObjects variant).pushFrame.length ≤ maxSize := by
    change ∀ variant ∈ Variant.ofAccount, _
    decide +kernel
  obtain ⟨pushes, d', ran, -, joins⟩ :=
    pushes_join (reached_editor none) isOpen finds gives
      (fun variant _ => isTyped_editedObjects variant) short
  -- only the contacts have local changes
  have dirty : (home.scope.variants.filter fun variant => (editedObjects variant).dirty) =
      [.contacts] := by
    change (Variant.ofAccount.filter fun variant => (editedObjects variant).dirty) = _
    decide
  rw [dirty] at joins
  cases joins with
  | @cons _ push _ _ both rest =>
    cases rest
    obtain ⟨carries, joins⟩ := both
    have variant : push.variant = .contacts := carries.variant
    have scope : push.scope = .account := carries.scope
    -- the other device has never heard of any contact, and its contacts are found empty
    have receives : (fresh 6).Receives d.session.ring .account :=
      ⟨reached_fresh 6, rfl, ring.symm, fun _ _ => rfl, nofun⟩
    have news : (fresh 6).Finds .account .contacts newContacts := .inr ⟨rfl, 0, rfl⟩
    have unknown : newContacts.hasMerged "m" = false := rfl
    obtain ⟨e', merged, joined, -⟩ := joins 7 (scope.symm ▸ receives)
      (by rw [scope, variant]; exact news) unknown
    rw [scope, variant] at merged joined
    have reveals : newContacts.state.joinReveals (editedObjects .contacts).state = true := by
      decide +kernel
    rw [reveals] at merged
    obtain ⟨handle, placed, state⟩ := joined.here
    refine ⟨d, d', fresh 6, e', push, handle, reached_editor none, receives, ran, merged, placed, ?_⟩
    rw [state]
    decide +kernel

/-- **Pushes that are withheld, and one that is refused.** Where the store refuses the row of the
profile, a session that has not loaded it hands out no push of the contacts either, although these
were edited and are in memory. And a field that is nested too deep is set without complaint, but
other replicas refuse what is pushed then. -/
theorem pushes_withheld :
    (∃ (d d' : Device) (o : Object), d.Reached ∧ d.session.closed = false ∧
      d.Finds .account .contacts o ∧ o.dirty = true ∧ o.state.IsTyped .contacts ∧
      o.pushFrame.length ≤ maxSize ∧
      pendingPushes (.contact d.session.ring.user) d = .error (.storage "disk full") d') ∧
    ∃ done : Edited Bool,
      (Object.blank .contacts .account 1).edit 5 (.constant 0)
        (EditM.setField (Json.nested Json.maxDepth) "contacts" "x"
          (Json.nestedValue Json.maxDepth)) = .ok done ∧
      done.result.toOption = some true ∧ done.object.pushFrame.length ≤ maxSize ∧
      (Object.blank .contacts .account 2).merge "m" done.object.push.data =
        .error (.corruptUpdate "m" (.schema (.badValue "contacts" "x" .tooDeep))) := by
  constructor
  · -- the profile is not in memory, and its row is refused
    let d := editor (some "disk full")
    have isOpen : d.session.closed = false := by decide +kernel
    have placed : (d.session.slot .account)[Variant.contacts]? = some 0 := by decide +kernel
    have edited : d.session.object 0 = editedContacts := by decide +kernel
    have free : (d.session.slot .account)[Variant.userProfile]? = none := by decide +kernel
    have refused (past : List Access) : d.store.fault past
        (.read (Scope.account.cell .userProfile)) = some "disk full" := by
      rw [fault_editor]
      rfl
    have failed := find_of_fault isOpen rfl free (refused _)
    let d' := (d.setSlot .account (d.session.slot .account)).noted
      (.read (Scope.account.cell .userProfile))
    have withheld : pendingPush .account .userProfile d = .error (.storage "disk full") d' :=
      bind_of_error (bind_of_error failed)
    -- the profile comes before the contacts
    have ended : pendingPushes (.contact d.session.ring.user) d =
        .error (.storage "disk full") d' := by
      refine bind_of_error ?_
      change List.mapM (pendingPush .account) (.userProfile :: _) d = _
      rw [List.mapM_cons]
      exact bind_of_error withheld
    have short : editedContacts.pushFrame.length ≤ maxSize := by decide +kernel
    exact ⟨d, d', editedContacts, reached_editor _, isOpen, .inl ⟨0, placed, edited⟩, rfl,
      isTyped_editedContacts, short, ended⟩
  · -- the text is one level deeper than what is read
    let json := (Json.nested Json.maxDepth).encode (Json.nestedValue Json.maxDepth)
    have short : (Object.noting json).pushFrame.length ≤ maxSize := by decide +kernel
    exact ⟨_, Object.edit_noting json _, rfl, short,
      Object.merge_noting (Json.check_nested (Json.depth_nested _).ge) short⟩

end Device

end ConfigReplica
