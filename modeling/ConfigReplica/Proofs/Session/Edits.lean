import ConfigReplica.Proofs.Object.Encoding
import ConfigReplica.Proofs.Session.Announcements
import ConfigReplica.Proofs.Session.Scheduling

/-!
# Edits and revisions

An edit may write many entries and fail half way, or put everything back. What counts is the state
that it leaves: if that differs from the state before, the object has a new revision, to be stored
and to be pushed, and if not, nothing at all became of the edit (`Config.Object.Revised`).

A device need not keep the old state to find out which it is: the hashes of both states differ
exactly if the states do, as long as the hash function does not take two encodings for one
(`Config.State.digest_ne_iff`).

In a session a new revision is stored and its push is scheduled, and the push is scheduled even if
the store refuses to write the object (`Device.Edits`). Without one, nothing is written and nothing
scheduled (`Device.Reads`).
-/

namespace ConfigReplica

open Config

/-! ### Objects -/

namespace Config

/-- Where the hash tells two encodings apart it tells the states apart. -/
theorem State.digest_ne_iff {s t : State} (short : t.bytes.length < UInt64.size)
    (apart : s.digest = t.digest → s.bytes = t.bytes) : s.digest ≠ t.digest ↔ s ≠ t := by
  refine not_congr ⟨fun same => ?_, fun same => by rw [same]⟩
  exact (State.eq_of_bytes_eq short (apart same).symm).symm

namespace Object

variable {α : Type} {o : Object}

/-- The object with an edited state, where hashes alone tell whether the state differs. -/
def reviseByDigest (o : Object) (state : State) : Object :=
  if state.digest = o.state.digest then { o with state }
  else { o with state, seqno := o.seqno + 1, dirty := true, needsDump := true }

/-- It is as good to compare hashes as it is to compare states. -/
theorem reviseByDigest_eq {state : State} (short : o.state.bytes.length < UInt64.size)
    (apart : state.digest = o.state.digest → state.bytes = o.state.bytes) :
    o.reviseByDigest state = o.revise state := by
  have differs := State.digest_ne_iff short apart
  unfold reviseByDigest revise
  -- a state is one case by what it is, and the other by its hash
  by_cases same : state = o.state
  · subst same
    rw [if_pos rfl, if_pos rfl]
  · rw [if_neg (differs.mpr same), if_neg same]

/-- **What an edit makes of an object.** One that changes the state makes a new revision, to be pushed
and to be stored. One that leaves the state as it was leaves everything as it was. -/
structure Revised (o : Object) (o' : Object) : Prop where
  changed : o'.state ≠ o.state →
    o' = { o with state := o'.state, seqno := o.seqno + 1, dirty := true, needsDump := true }
  unchanged : o'.state = o.state → o' = o

/-- What an edit makes of an object is a revision of it. -/
theorem revised_revise (o : Object) (state : State) : o.Revised (o.revise state) where
  changed differs := by
    rw [state_revise] at differs ⊢
    exact revise_of_ne differs
  unchanged same := by
    rw [state_revise] at same
    exact revise_of_eq same

/-- **An edit of an object**: it is refused if the object is gone, and otherwise its step runs. -/
theorem edit_eq (o : Object) (now : Int64) (entropy : Entropy) (step : EditM α) :
    (o.destroyed = true ∧ o.edit now entropy step = .error (.gone o.scope)) ∨
      o.destroyed = false ∧ ∃ done, o.edit now entropy step = .ok done ∧
        done.object = o.revise (EditM.after step (o.draft now entropy)).state := by
  cases gone : o.destroyed with
  | true => exact .inl ⟨rfl, by rw [Object.edit, gone, if_pos rfl]⟩
  | false =>
    have ran : ∃ done, o.edit now entropy step = .ok done := by
      rw [Object.edit, gone, if_neg (by simp)]
      -- a step that fails half way leaves a draft as well, and its state counts
      cases step (o.draft now entropy) with
      | ok x d => exact ⟨_, rfl⟩
      | error error d => exact ⟨_, rfl⟩
    obtain ⟨done, ran⟩ := ran
    exact .inr ⟨rfl, done, ran, edit_cases ran⟩

/-- A new revision has another number, so the number tells whether the state differs. -/
theorem seqno_revise_ne_iff (o : Object) (state : State) :
    (o.revise state).seqno ≠ o.seqno ↔ state ≠ o.state := by
  by_cases same : state = o.state
  · rw [revise_of_eq same]
    simp [same]
  · rw [revise_of_ne same]
    simp [same]

end Object

end Config

/-! ### Reading -/

namespace Device

/-- **Only rows were read**: nothing was written, and nothing was scheduled. -/
structure Reads (d d' : Device) : Prop where
  schedule : d'.session.schedule = d.session.schedule
  rows : d'.store.rows = d.store.rows
  past : ∃ cells : List Cell, d'.store.past = cells.map .read ++ d.store.past

namespace Reads

variable {d d' d'' : Device}

theorem refl (d : Device) : Reads d d :=
  ⟨rfl, rfl, [], rfl⟩

theorem trans (first : Reads d d') (second : Reads d' d'') : Reads d d'' where
  schedule := second.schedule.trans first.schedule
  rows := second.rows.trans first.rows
  past := by
    obtain ⟨cells, past⟩ := first.past
    obtain ⟨cells', past'⟩ := second.past
    refine ⟨cells' ++ cells, ?_⟩
    rw [past', past, List.map_append, List.append_assoc]

/-- Any number of readings. -/
theorem of_steps (steps : Relation.ReflTransGen Reads d d') : Reads d d' := by
  induction steps with
  | refl => exact .refl d
  | tail past step ih => exact ih.trans step

end Reads

end Device

namespace SessionM

open Device

variable {α : Type} {d d' d₁ d₂ : Device} {scope : Scope} {variant : Variant} {handle : Handle}
  {o : Object} {step : EditM α}

/-- To look things up a session only reads. -/
theorem looking_reads : Looking Reads where
  read _ cell := ⟨rfl, rfl, [cell], rfl⟩
  recalled _ _ := ⟨rfl, rfl, [], rfl⟩
  touched _ _ _ := ⟨rfl, rfl, [], rfl⟩
  adopted _ _ _ _ := ⟨rfl, rfl, [], rfl⟩
  drawn _ _ := ⟨rfl, rfl, [], rfl⟩

/-- A session that gets to an object only read until it had it. -/
theorem reads_of_reaches (reaches : d.Reaches scope variant handle d') : Reads d d' := by
  obtain ⟨d₁, checked, found⟩ := reaches.looked
  have first := looking_reads.within_checkPresent scope d
  -- first the scope is checked and then the object looked up
  have second := looking_reads.within_find variant scope d₁
  rw [stateAfter_of_ok checked] at first
  rw [stateAfter_of_ok found] at second
  exact .of_steps (first.trans second)

/-- A session that does not get to an object only reads. -/
theorem reads_of_fails {error : Error}
    (fails : reach variant scope (fun handle => pure handle) d = .error error d') : Reads d d' := by
  have looks : Within Reads (reach variant scope fun handle => pure handle) := by
    unfold reach
    exact (looking_reads.within_checkPresent scope).bind fun _ =>
      (looking_reads.within_find variant scope).bind fun handle => .pure handle
  have steps := looks d
  rw [stateAfter_of_error fails] at steps
  exact .of_steps steps

/-! ### Editing -/

/-- The device once an object was edited. -/
def edited (d : Device) (handle : Handle) (done : Edited α) : Device :=
  { d.setObject handle done.object with entropy := done.entropy }

/-- Editing the object under a handle gives the flag of the revision and what the step came to. -/
theorem editObject_eq {done : Edited α} {time : Int64} (same : d.session.object handle = o)
    (ran : o.edit time d.entropy step = .ok done) :
    editObject handle time step d =
      .ok (done.object.seqno != o.seqno, done.result) (edited d handle done) := by
  have looks : object handle d = .ok o d := congrArg (EStateM.Result.ok · d) same
  have draws : (get : SessionM Device) d = .ok d d := rfl
  unfold editObject
  rw [bind_of_ok looks, bind_of_ok draws, ran]
  rfl

/-- An edit that makes no revision ends there. -/
theorem edit_of_unchanged {result : Except Error α} (ready : d.Ready scope variant handle)
    (ran : editObject handle d.clock step d = .ok (false, result) d') :
    edit variant scope step d = .ok result d' := by
  -- the flag is not set, so neither the store nor the schedule is asked
  have clock : now d = .ok d.clock d := rfl
  refine (reach_of_ready ready _).trans ?_
  rw [bind_of_ok clock, bind_of_ok ran]
  rfl

/-- After one that does, a push is scheduled whether or not the object can be stored. -/
theorem edit_of_changed {result : Except Error α} {outcome : Except Error Unit}
    (ready : d.Ready scope variant handle)
    (ran : editObject handle d.clock step d = .ok (true, result) d₁)
    (stored : attempt (persistObject handle d₁.clock) d₁ = .ok outcome d₂)
    (kept : isGone outcome = false) (isOpen : d₂.session.closed = false) :
    edit variant scope step d =
      let scheduled := d₂.setSchedule
        (d₂.session.schedule.insert (d₂.session.destinationOf scope)).signal
      match outcome with
      | .ok () => .ok result scheduled
      | .error error => .error error scheduled := by
  -- the mark of a removed group is what would keep the push from being scheduled
  have clock (d : Device) : now d = .ok d.clock d := rfl
  refine (reach_of_ready ready _).trans ?_
  rw [bind_of_ok (clock _), bind_of_ok ran]
  dsimp only
  rw [if_pos rfl, bind_of_ok (clock _), bind_of_ok stored, kept,
    if_pos (show (!false) = true from rfl), bind_of_ok (session_eq d₂),
    bind_of_ok (schedulePush_of_open isOpen _)]
  cases outcome <;> rfl

end SessionM

namespace Device

open SessionM

variable {α : Type} {d d' d₁ d₂ : Device} {scope : Scope} {variant : Variant} {handle : Handle}
  {o : Object} {step : EditM α} {done : Edited α}

/-- The store took the last step that it was asked for, to write this row. -/
def TookWrite (d : Device) (cell : Cell) (bytes : Bytes) : Prop :=
  ∃ past, d.store.past = .write cell :: past ∧ d.store.fault past (.write cell) = none ∧
    d.store.row? cell = some bytes

/-- **Storing an object was tried**: the object is stored, or the store refused to write it. -/
structure Tried (d : Device) (scope : Scope) (variant : Variant) (handle : Handle) (time : Int64)
    (outcome : Except Error Unit) (d' : Device) : Prop where
  slots : d'.session.slots = d.session.slots
  schedule : d'.session.schedule = d.session.schedule
  closed : d'.session.closed = d.session.closed
  ring : d'.session.ring = d.session.ring
  outcome :
    (outcome = .ok () ∧
      d'.session.object handle = (d.session.object handle).markDumped ∧
      d'.TookWrite (scope.cell variant)
        (StoredObject.codec.write { time, dump := (d.session.object handle).dump })) ∨
    ∃ text, outcome = .error (.storage text) ∧
      d'.session.object handle = d.session.object handle ∧
      d'.RefusedWrite (scope.cell variant) text

/-- To store an object that can be had is tried: only the store can refuse. -/
theorem Ready.tried (ready : d.Ready scope variant handle) (time : Int64) :
    ∃ outcome d', attempt (persistObject handle time) d = .ok outcome d' ∧
      d.Tried scope variant handle time outcome d' := by
  obtain ⟨known, -, hasScope, hasVariant, -⟩ := ready.tidy scope variant handle ready.placed
  let write : Access := .write (scope.cell variant)
  unfold attempt
  rw [ready.persistObject_eq]
  -- the fault decides, and in both cases the write was the last step
  cases fault : d.store.fault d.store.past write with
  | none =>
    refine ⟨.ok (), (d.noted write).saved handle time, rfl, rfl, rfl, rfl, rfl, .inl ⟨rfl, ?_, ?_⟩⟩
    · rw [object_saved (d := d.noted write) known, if_pos rfl]
      rfl
    · have same : (d.noted write).session.object handle = d.session.object handle := rfl
      refine ⟨d.store.past, rfl, fault, ?_⟩
      rw [row?_saved, same, hasScope, hasVariant, if_pos rfl]
  | some text =>
    refine ⟨.error (.storage text), d.noted write, rfl, rfl, rfl, rfl, rfl, .inr ⟨text, rfl, rfl, ?_⟩⟩
    exact ⟨d.store.past, rfl, fault⟩

/-- An object that can be had is of no scope that is gone. -/
theorem Tried.not_gone {time : Int64} {outcome : Except Error Unit}
    (tried : d.Tried scope variant handle time outcome d') : isGone outcome = false := by
  rcases tried.outcome with ⟨rfl, -⟩ | ⟨text, rfl, -⟩ <;> rfl

/-- **An edit reaches its object**, which can be had and is in its slot afterwards.

* If the state is the one before, the edit ends with what its step came to; the object is untouched,
  nothing was written and nothing was scheduled.
* If the state differs, a push is scheduled to the destination of the scope. The edit ends with what
  its step came to and the object is stored, or the store refuses to write the object and the edit
  fails for that. -/
structure Edits (d : Device) (variant : Variant) (scope : Scope) (step : EditM α) (o : Object)
    (handle : Handle) (done : Edited α) (d' : Device) : Prop where
  finds : d.Finds scope variant o
  ran : ∃ entropy, o.edit d.clock entropy step = .ok done
  placed : d'.Placed scope variant handle
  outcome :
    (done.object.state = o.state ∧ edit variant scope step d = .ok done.result d' ∧
      d'.session.object handle = o ∧ Reads d d') ∨
    (done.object.state ≠ o.state ∧
      d'.session.schedule =
        (d.session.schedule.insert (d.session.destinationOf scope)).signal ∧
      ((edit variant scope step d = .ok done.result d' ∧
          d'.session.object handle = done.object.markDumped ∧
          d'.TookWrite (scope.cell variant)
            (StoredObject.codec.write { time := d.clock, dump := done.object.dump })) ∨
        ∃ text, edit variant scope step d = .error (.storage text) d' ∧
          d'.session.object handle = done.object ∧ d'.RefusedWrite (scope.cell variant) text))

/-- What stands under the handle once the object was edited. -/
theorem Ready.object_edited (ready : d.Ready scope variant handle) (done : Edited α) :
    (edited d handle done).session.object handle = done.object := by
  obtain ⟨known, -⟩ := ready.tidy scope variant handle ready.placed
  have put : (d.setObject handle done.object).session.object handle = done.object := by
    rw [object_setObject, if_pos ⟨rfl, known⟩]
  exact put

section

variable (ready : d.Ready scope variant handle) (same : d.session.object handle = o)

include ready same

/-- An edit that puts everything back. -/
theorem Ready.edits_of_unchanged (ran : o.edit d.clock d.entropy step = .ok done)
    (untouched : done.object = o) :
    d.Edits variant scope step o handle done (edited d handle done) := by
  have editing := editObject_eq same ran
  -- the number is the same, so the flag is not set
  have flag : (done.object.seqno != o.seqno) = false := by rw [untouched, bne_self_eq_false]
  rw [flag] at editing
  have now := ready.object_edited done
  exact ⟨.inl ⟨handle, ready.placed, same⟩, ⟨_, ran⟩, ready.placed,
    .inl ⟨congrArg Object.state untouched, edit_of_unchanged ready editing,
      now.trans untouched, ⟨rfl, rfl, [], rfl⟩⟩⟩

/-- An edit that makes a revision, which is stored if the store takes it. -/
theorem Ready.edits_of_changed (ran : o.edit d.clock d.entropy step = .ok done) {s : State}
    (differs : s ≠ o.state) (revised : done.object = o.revise s) :
    ∃ d', d.Edits variant scope step o handle done d' := by
  have editing := editObject_eq same ran
  -- the state differs, so the number does, and the flag is set
  have flag : (done.object.seqno != o.seqno) = true :=
    bne_iff_ne.mpr (revised ▸ (o.seqno_revise_ne_iff s).mpr differs)
  rw [flag] at editing
  have now := ready.object_edited done
  have revision := revised.trans (Object.revise_of_ne differs)
  -- an edited object has the scope and the variant that it had, and has not ended
  have put : (d.setObject handle done.object).Ready scope variant handle :=
    ready.setObject (by rw [revision, same]) (by rw [revision, same]) (by rw [revision, same])
  have ready₁ : (edited d handle done).Ready scope variant handle := put.aside {}
  obtain ⟨outcome, d₁, stored, tried⟩ := ready₁.tried d.clock
  let d' := d₁.setSchedule (d₁.session.schedule.insert (d₁.session.destinationOf scope)).signal
  have ended :=
    edit_of_changed ready editing stored tried.not_gone (tried.closed.trans ready.isOpen)
  have placed : d'.Placed scope variant handle := by
    change (d₁.session.slot scope)[variant]? = some handle
    unfold Session.slot
    rw [tried.slots]
    exact ready.placed
  have scheduled : d'.session.schedule =
      (d.session.schedule.insert (d.session.destinationOf scope)).signal := by
    change (d₁.session.schedule.insert _).signal = _
    rw [tried.schedule, Session.destinationOf_of_ring tried.ring scope]
    rfl
  have changed : done.object.state ≠ o.state := by
    rw [revised, Object.state_revise]
    exact differs
  refine ⟨d', .inl ⟨handle, ready.placed, same⟩, ⟨_, ran⟩, placed, .inr ⟨changed, scheduled, ?_⟩⟩
  -- the object was stored, or the store refused it; the push is scheduled in both cases
  rcases tried.outcome with ⟨rfl, object, took⟩ | ⟨text, rfl, object, refused⟩
  · rw [now] at object took
    exact .inl ⟨ended, object, took⟩
  · exact .inr ⟨text, ended, object.trans now, refused⟩

end

/-- Once its object can be had an edit comes to one of the two outcomes. -/
theorem Ready.edits (ready : d.Ready scope variant handle) (step : EditM α) :
    ∃ o done d', d.Edits variant scope step o handle done d' := by
  obtain ⟨-, -, -, -, live⟩ := ready.tidy scope variant handle ready.placed
  rcases (d.session.object handle).edit_eq d.clock d.entropy step with
    ⟨gone, -⟩ | ⟨-, done, ran, revised⟩
  · cases live.symm.trans gone
  · -- whether the state differs decides between the two outcomes
    by_cases unchanged :
        (EditM.after step ((d.session.object handle).draft d.clock d.entropy)).state =
          (d.session.object handle).state
    · have untouched := revised.trans (Object.revise_of_eq unchanged)
      exact ⟨_, done, _, ready.edits_of_unchanged rfl ran untouched⟩
    · obtain ⟨d', edits⟩ := ready.edits_of_changed rfl ran unchanged revised
      exact ⟨_, done, d', edits⟩

/-- To look an object up before it is edited makes no difference. -/
theorem Edits.of_reaches (reaches : d.Reaches scope variant handle d₁)
    (edits : d₁.Edits variant scope step o handle done d') :
    d.Edits variant scope step o handle done d' := by
  have same : edit variant scope step d = edit variant scope step d₁ := reach_of_reaches reaches _
  have reads := reads_of_reaches reaches
  have home := Session.destinationOf_of_ring reaches.ring scope
  refine ⟨reaches.finds edits.finds, reaches.clock ▸ edits.ran, edits.placed, ?_⟩
  -- nothing was written and nothing scheduled on the way to the object
  rw [same]
  rcases edits.outcome with ⟨unchanged, ended, object, reads'⟩ | ⟨changed, scheduled, ended⟩
  · exact .inl ⟨unchanged, ended, object, reads.trans reads'⟩
  · rw [reads.schedule, home] at scheduled
    rw [reaches.clock] at ended
    exact .inr ⟨changed, scheduled, ended⟩

/-- **Revisions count the edits that change a state, and each of them is queued.** Whatever an edit
does, and whether or not it fails half way:

* an object has a new revision after it exactly if the state differs, and is what it was if not. To
  compare hashes comes to the same as to compare states, as long as the hash tells the encoding
  afterwards from the one before;
* an open session, whatever its store refuses, either does not get to the object and leaves all as it
  was, or the edit reaches the object and a push is scheduled exactly if the state differs. It does
  get to the object if the scope is present and has the variant, rows can be read, and the object can
  be had. -/
theorem revisions_count_changes (step : EditM α) :
    (∀ (o : Object) (now : Int64) (entropy : Entropy),
      match o.edit now entropy step with
      | .error error => o.destroyed = true ∧ error = .gone o.scope
      | .ok done =>
        done.object.state = (EditM.after step (o.draft now entropy)).state ∧
        o.Revised done.object ∧
        (o.state.bytes.length < UInt64.size →
          (done.object.state.digest = o.state.digest →
            done.object.state.bytes = o.state.bytes) →
          done.object = o.reviseByDigest done.object.state)) ∧
    ∀ (d : Device) (variant : Variant) (scope : Scope), d.Reached → d.session.closed = false →
      (∃ error d', edit variant scope step d = .error error d' ∧ Alike d d' ∧ Reads d d' ∧
        ¬ (d.Admits scope ∧ scope.admits variant = true ∧ d.store.Answers ∧
          ∃ o, d.Finds scope variant o)) ∨
      ∃ o handle done d', d.Edits variant scope step o handle done d' := by
  -- of the object alone; the hash takes the place of the state where it tells states apart
  constructor
  · intro o now entropy
    rcases o.edit_eq now entropy step with ⟨gone, ran⟩ | ⟨-, done, ran, revised⟩
    · rw [ran]
      exact ⟨gone, rfl⟩
    · rw [ran]
      dsimp only
      rw [revised, Object.state_revise]
      exact ⟨rfl, o.revised_revise _, fun short apart => (Object.reviseByDigest_eq short apart).symm⟩
  · -- in a session: it does not get to the object, or the object can be had
    intro d variant scope reached isOpen
    rcases reach_cases reached.tidy variant scope with ⟨error, d', alike, fails, never⟩ |
      ⟨handle, d₁, reaches⟩
    · exact .inl ⟨error, d', fails _, alike, reads_of_fails (fails _),
        fun possible => never ⟨isOpen, possible⟩⟩
    · obtain ⟨o, done, d', edits⟩ := reaches.ready.edits step
      exact .inr ⟨o, handle, done, d', edits.of_reaches reaches⟩

/-- The state that new contacts come to when an entry is set, whatever is drawn. -/
theorem state_after_set (entropy : Entropy) :
    (EditM.after (EditM.set "contacts" "x" "1") (newContacts.draft 5 entropy)).state =
      State.empty.write "contacts" "x" ⟨5, 0, some "1"⟩ := by
  have set : EditM.set "contacts" "x" "1" (newContacts.draft 5 entropy) =
      .ok true { newContacts.draft 5 entropy with
        state := State.empty.write "contacts" "x" ⟨5, 0, some "1"⟩ } := rfl
  unfold EditM.after
  rw [set]

/-- A field of new contacts is set. The store refuses to write them, and the edit fails for that. The
contacts have their first revision all the same, and it will be pushed. -/
theorem revisions_count_changes_refused :
    ∃ (done : Edited Bool) (d d' : Device),
      newContacts.edit 5 d.entropy (EditM.set "contacts" "x" "1") = .ok done ∧
      newContacts.state.bytes.length < UInt64.size ∧
      done.object.state.digest ≠ newContacts.state.digest ∧
      done.object = newContacts.reviseByDigest done.object.state ∧
      done.object.seqno = 1 ∧ done.object.dirty = true ∧ done.object.needsDump = true ∧
      d.Reached ∧ d.session.closed = false ∧
      edit .contacts .account (EditM.set "contacts" "x" "1") d = .error (.storage "disk full") d' ∧
      .contact d.session.ring.user ∈ d'.session.schedule.queue := by
  let d := listener (some "disk full")
  let step := EditM.set "contacts" "x" "1"
  let set := State.empty.write "contacts" "x" ⟨5, 0, some "1"⟩
  obtain ⟨objects, sessions⟩ := revisions_count_changes step
  have short : newContacts.state.bytes.length < UInt64.size := by decide
  have apart : set.digest ≠ newContacts.state.digest := by decide +kernel
  have differs : set ≠ newContacts.state := fun same => apart (congrArg State.digest same)
  -- the object makes its first revision
  have made := objects newContacts 5 d.entropy
  obtain ⟨done, ran⟩ : ∃ done, newContacts.edit 5 d.entropy step = .ok done := ⟨_, rfl⟩
  rw [ran, state_after_set] at made
  obtain ⟨state, revised, byDigest⟩ := made
  have revision := revised.changed (state.symm ▸ differs)
  have byDigest := byDigest short fun same =>
    absurd ((congrArg State.digest state).symm.trans same) apart
  -- the session is queued for it, though the store refuses the contacts
  have reached : d.Reached := reached_listener _
  have isOpen : d.session.closed = false := by decide +kernel
  have placed : (d.session.slot .account)[Variant.contacts]? = some 0 := by decide +kernel
  have new : d.session.object 0 = newContacts := by decide +kernel
  have clock : d.clock = 5 := rfl
  have finds : d.Finds .account .contacts newContacts := .inl ⟨0, placed, new⟩
  have answers : d.store.Answers := fun past cell => rfl
  have admits : d.Admits .account := by
    intro group other
    cases other
  rcases sessions d .contacts .account reached isOpen with ⟨_, _, -, -, -, never⟩ |
    ⟨o, handle, done', d', edits⟩
  · exact absurd ⟨admits, rfl, answers, _, finds⟩ never
  · -- the contacts are in their slot, so what was found is what is there
    obtain rfl : o = newContacts := by
      rcases edits.finds with ⟨i, placed', rfl⟩ | ⟨free, -⟩
      · obtain rfl : 0 = i := Option.some.inj (placed.symm.trans placed')
        exact new
      · cases placed.symm.trans free
    obtain ⟨entropy, ran'⟩ := edits.ran
    -- every write of contacts is refused, so the outcome with a stored object is out of the
    -- question
    rw [clock] at ran'
    have state' : done'.object.state = set := by
      rw [Object.edit_cases ran', Object.state_revise, state_after_set]
    have fault (left : stateAfter (edit .contacts .account step) d = d') :
        d'.store.fault = d.store.fault := by
      have operation : Operation .work (edit .contacts .account step) :=
        .edit .contacts .account (.set "contacts" "x" "1")
      have chain := operation.chain reached.tidy
      rw [left] at chain
      exact chain.keeps (fun effect same => effect.steady.2.2.2.trans same) rfl
    have refuses (past : List Access) :
        d.store.fault past (.write (Scope.account.cell .contacts)) = some "disk full" := rfl
    rcases edits.outcome with ⟨same, -⟩ |
      ⟨-, scheduled, ⟨ended, -, past, -, took, -⟩ | ⟨text, ended, -, past, -, refused⟩⟩
    · exact absurd (state'.symm.trans same) differs
    · rw [fault (stateAfter_of_ok ended), refuses] at took
      cases took
    · rw [fault (stateAfter_of_error ended), refuses] at refused
      cases refused
      refine ⟨done, d, d', ran, short, state.symm ▸ apart, byDigest, ?_, ?_, ?_, reached, isOpen,
        ended, ?_⟩
      · rw [revision]
        rfl
      · rw [revision]
      · rw [revision]
      · rw [scheduled, Schedule.queue_signal, Schedule.mem_insert]
        exact .inl rfl

end Device

end ConfigReplica
