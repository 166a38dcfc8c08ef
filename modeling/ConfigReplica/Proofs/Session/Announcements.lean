import ConfigReplica.Proofs.Session.Batches
import ConfigReplica.Proofs.Session.Reaching

/-!
# Which changes are announced

A batch of updates is merged into an object one update after the other, the object is stored, and
then the listener is told if some update changed a visible value. Storing comes first: where the
store refuses the object the call fails before it tells anyone, although the object in memory has
changed already and remembers the updates. That is the one way in which a visible change goes
unannounced (`Device.announced_iff_stored`).

An object that was not in use is loaded or made for the merge (`Device.Finds`). What the batch then
does to it is followed on the object alone (`Config.Object.received`).
-/

namespace ConfigReplica

open Config

/-! ### Updates that make a difference -/

namespace Device

variable {d d' : Device} {scope : Scope} {variant : Variant} {handle : Handle} {o o' : Object}

/-- Some update of a batch changes a visible value of the object of a scope and variant. -/
def Reveals (d : Device) (scope : Scope) (variant : Variant) (updates : List Update) : Prop :=
  ∃ o, d.Finds scope variant o ∧ o.Reveals d.session.ring updates

/-- It makes no difference which of the objects that may be made for them it is. -/
theorem Finds.reveals_iff (finds : d.Finds scope variant o) {updates : List Update} :
    d.Reveals scope variant updates ↔ o.Reveals d.session.ring updates := by
  refine ⟨fun ⟨p, found, reveals⟩ => ?_, fun reveals => ⟨o, finds, reveals⟩⟩
  obtain ⟨origin, rfl⟩ := found.unique finds
  -- the origin is not visible
  have same (updates : List Update) : ({ p with origin }.received d.session.ring updates).state =
      (p.received d.session.ring updates).state := by
    rw [Object.received_withOrigin]
  obtain ⟨before, update, after, split, collection, key, differs⟩ := reveals
  refine ⟨before, update, after, split, collection, key, ?_⟩
  rw [same, same]
  exact differs

/-! ### Storing what changed -/

/-- The device once the object of a handle was stored, if it had to be. -/
def dumped (d : Device) (handle : Handle) (time : Int64) : Device :=
  let o := d.session.object handle
  if o.needsDump then (d.noted (.write (o.scope.cell o.variant))).saved handle time else d

/-- Storing takes no more of an object than its mark. -/
theorem object_dumped (known : handle < d.session.objects.size) (time : Int64) :
    (d.dumped handle time).session.object handle = (d.session.object handle).markDumped := by
  unfold dumped
  -- an object without the mark is left as it is, and taking its mark changes nothing
  cases dump : (d.session.object handle).needsDump with
  | true =>
    dsimp only
    rw [if_pos dump, object_saved (d := d.noted _) known, if_pos rfl]
    rfl
  | false =>
    dsimp only
    rw [if_neg (by simp [dump]), Object.markDumped, ← dump]

/-- Storing keeps the device ready to work on the object. -/
theorem Ready.dumped (ready : d.Ready scope variant handle) (time : Int64) :
    (d.dumped handle time).Ready scope variant handle := by
  unfold Device.dumped
  dsimp only
  split
  · exact (ready.aside (Aside.noted d _)).saved time
  · exact ready

/-- An object that has to be stored is. -/
theorem Ready.dumped_of_marked (ready : d.Ready scope variant handle)
    (marked : (d.session.object handle).needsDump = true) (time : Int64) :
    d.dumped handle time = (d.noted (.write (scope.cell variant))).saved handle time := by
  obtain ⟨-, -, hasScope, hasVariant, -⟩ := ready.tidy scope variant handle ready.placed
  rw [Device.dumped, marked, if_pos rfl, hasScope, hasVariant]

/-- Keys, notices and faults are not what is stored. -/
theorem steady_dumped (d : Device) (handle : Handle) (time : Int64) :
    (d.dumped handle time).session.ring = d.session.ring ∧
      (d.dumped handle time).session.notices = d.session.notices ∧
      (d.dumped handle time).store.fault = d.store.fault := by
  unfold dumped
  dsimp only
  split <;> exact ⟨rfl, rfl, rfl⟩

/-- What arrives for an object leaves the device ready to work on it. -/
theorem Ready.received (ready : d.Ready scope variant handle) (ring : Seal.Keyring)
    (updates : List Update) :
    (d.setObject handle ((d.session.object handle).received ring updates)).Ready scope variant
      handle := by
  obtain ⟨hasVariant, hasScope, life⟩ := (d.session.object handle).received_keeps ring updates
  exact ready.setObject hasVariant hasScope life

end Device

namespace SessionM

open Device

variable {d : Device} {scope : Scope} {variant : Variant} {handle : Handle}

/-! ### Merging a batch -/

/-- What is done once the updates of a batch have arrived: the object is stored, and the listener
told. -/
def conclude (handle : Handle) (time : Int64) (notice : Notice) (report : MergeReport) :
    SessionM MergeReport := do
  checkOpen
  if (← object handle).needsDump then persistObject handle time
  if report.changed then notify notice
  pure report

/-- **A batch for an object in its slot** comes to what its updates come to. -/
theorem merge_of_ready (ready : d.Ready scope variant handle) (updates : List Update)
    (time : Int64) :
    merge variant scope updates time d =
      conclude handle time { variant, scope, time }
        (.of ((d.session.object handle).outcomes d.session.ring updates))
        (d.setObject handle ((d.session.object handle).received d.session.ring updates)) := by
  obtain ⟨known, -, hasScope, hasVariant, live⟩ := ready.tidy scope variant handle ready.placed
  have looks : object handle d = .ok (d.session.object handle) d := rfl
  have ran := mergeUpdates_eq ready.isOpen known rfl hasVariant hasScope live {} updates
  rw [MergeReport.nil_append] at ran
  refine (reach_of_ready ready _).trans ?_
  rw [bind_of_ok looks, live, if_neg (by simp)]
  dsimp only
  rw [bind_of_ok (checkPresent_of_present ready.present), bind_of_ok ran]
  rfl

/-- The listener is told of a batch that changed a visible value. -/
def tell (notice : Notice) (report : MergeReport) : SessionM MergeReport := do
  if report.changed then notify notice
  pure report

/-- The listener hears of the batch only if something changed, and nothing else is touched. -/
theorem tell_eq (notice : Notice) (report : MergeReport) (d : Device) :
    ∃ d', tell notice report d = .ok report d' ∧ Aside d d' ∧
      d'.session.notices = if report.changed then d.session.notices.map (notice :: ·)
        else d.session.notices := by
  -- telling adds to the notices alone
  unfold tell
  cases report.changed with
  | false => exact ⟨d, rfl, {}, rfl⟩
  | true => exact ⟨_, rfl, {}, rfl⟩

/-- **Only the store can keep the listener from being told.** An object that changed is stored before
that. -/
theorem conclude_cases (ready : d.Ready scope variant handle) (time : Int64) (notice : Notice)
    (report : MergeReport) :
    (∃ d', conclude handle time notice report d = .ok report d' ∧
      Aside (d.dumped handle time) d' ∧
      d'.session.notices = if report.changed then d.session.notices.map (notice :: ·)
        else d.session.notices) ∨
    ∃ text, d.store.fault d.store.past (.write (scope.cell variant)) = some text ∧
      conclude handle time notice report d =
        .error (.storage text) (d.noted (.write (scope.cell variant))) := by
  have looks : object handle d = .ok (d.session.object handle) d := rfl
  obtain ⟨d', told, same, notices⟩ := tell_eq notice report (d.dumped handle time)
  rw [(steady_dumped d handle time).2.1] at notices
  unfold conclude
  rw [bind_of_ok (checkOpen_of_open ready.isOpen), bind_of_ok looks]
  -- an object without changes is not stored, so there is nothing that the store could refuse
  cases dump : (d.session.object handle).needsDump with
  | false =>
    refine .inl ⟨d', ?_, same, notices⟩
    have stays : d.dumped handle time = d := by rw [dumped, dump, if_neg (by simp)]
    rw [stays] at told
    exact told
  | true =>
    rw [if_pos rfl]
    have stored := ready.persistObject_eq time
    -- the object is written, and the store has the last word
    split at stored
    · refine .inl ⟨d', ?_, same, notices⟩
      rw [ready.dumped_of_marked dump] at told
      exact (bind_of_ok stored).trans told
    · next text refused => exact .inr ⟨text, refused, bind_of_error stored⟩

end SessionM

namespace Device

open SessionM

variable {d d' : Device} {scope : Scope} {variant : Variant}

/-- The store refused the last step that it was asked for, to write this row. -/
def RefusedWrite (d : Device) (cell : Cell) (text : String) : Prop :=
  ∃ past, d.store.past = .write cell :: past ∧ d.store.fault past (.write cell) = some text

/-- **A batch reaches its object**: the object takes the updates; then it is stored and the
listener told if one of them changed a visible value, or the store refuses to write it. -/
structure Merges (d : Device) (variant : Variant) (scope : Scope) (updates : List Update)
    (time : Int64) (o : Object) (handle : Handle) (d' : Device) : Prop where
  finds : d.Finds scope variant o
  placed : d'.Placed scope variant handle
  state : (d'.session.object handle).state = (o.received d.session.ring updates).state
  outcome :
    (∃ report, merge variant scope updates time d = .ok report d' ∧
      (report.changed = true ↔ o.Reveals d.session.ring updates) ∧
      d'.session.notices = if report.changed
        then d.session.notices.map ({ variant, scope, time } :: ·) else d.session.notices) ∨
    ∃ text, merge variant scope updates time d = .error (.storage text) d' ∧
      d'.RefusedWrite (scope.cell variant) text ∧ d'.session.notices = d.session.notices

/-- A device that can reach its object merges the batch into it. -/
theorem merges_of_reaches {d₁ : Device} {handle : Handle}
    (reaches : d.Reaches scope variant handle d₁) (updates : List Update) (time : Int64) :
    ∃ d', Merges d variant scope updates time (d₁.session.object handle) handle d' := by
  have ready := reaches.ready
  obtain ⟨known, -⟩ := ready.tidy scope variant handle ready.placed
  have finds := reaches.finds (.inl ⟨handle, ready.placed, rfl⟩)
  have ran : merge variant scope updates time d = merge variant scope updates time d₁ :=
    reach_of_reaches reaches _
  rw [merge_of_ready ready] at ran
  have ready₁ := ready.received d₁.session.ring updates
  rw [reaches.ring] at ran ready₁
  -- the batch is in the object, which is not stored yet
  generalize d₁.session.object handle = o at *
  let d₂ := d₁.setObject handle (o.received d.session.ring updates)
  have now : d₂.session.object handle = o.received d.session.ring updates := by
    rw [object_setObject, if_pos ⟨rfl, known⟩]
  have known₂ : handle < d₂.session.objects.size := (size_setObject ..).symm ▸ known
  have notices : d₂.session.notices = d.session.notices := reaches.notices
  -- either the object was stored and the listener told, or the store refused it and nobody was
  rcases conclude_cases ready₁ time { variant, scope, time }
    (.of (o.outcomes d.session.ring updates)) with ⟨d', concluded, same, told⟩ |
    ⟨text, refused, failed⟩
  · refine ⟨d', finds, ((ready₁.dumped time).aside same).placed, ?_,
      .inl ⟨_, ran.trans concluded, Object.changed_outcomes_iff, told.trans (by rw [notices])⟩⟩
    rw [same.object, object_dumped known₂, now]
    rfl
  · exact ⟨d₂.noted _, finds, ready₁.placed, congrArg Object.state now,
      .inr ⟨text, ran.trans failed, ⟨_, rfl, refused⟩, notices⟩⟩

/-- **What a merge comes to**: it fails before it reaches the object and leaves all as it was, or
the batch reaches the object. -/
theorem merge_cases (tidy : d.Tidy) (variant : Variant) (scope : Scope) (updates : List Update)
    (time : Int64) :
    (∃ error d', merge variant scope updates time d = .error error d' ∧ Alike d d') ∨
    ∃ o handle d', Merges d variant scope updates time o handle d' := by
  -- the merge looks its object up first, and that alone can fail without a trace
  rcases reach_cases tidy variant scope with ⟨error, d', alike, fails, -⟩ | ⟨handle, d₁, reaches⟩
  · exact .inl ⟨error, d', fails _, alike⟩
  · obtain ⟨d', merges⟩ := merges_of_reaches reaches updates time
    exact .inr ⟨_, handle, d', merges⟩

/-- What a batch makes visible, one of its updates does. -/
theorem Merges.reveals {updates : List Update} {time : Int64} {o p q : Object} {handle : Handle}
    (merges : Merges d variant scope updates time o handle d') (before : d.Finds scope variant p)
    (after : d'.Finds scope variant q) (differs : p.Differs q) :
    o.Reveals d.session.ring updates := by
  obtain ⟨origin, rfl⟩ := merges.finds.unique before
  -- the slot is taken afterwards, so what is found there is the object that the batch reached
  have same : q.state = (o.received d.session.ring updates).state := by
    rcases after with ⟨other, placed, rfl⟩ | ⟨free, -⟩
    · obtain rfl : handle = other := Option.some.inj (merges.placed.symm.trans placed)
      exact merges.state
    · cases merges.placed.symm.trans free
  obtain ⟨collection, key, differs⟩ := differs
  rw [same] at differs
  exact Object.Differs.reveals ⟨collection, key, differs⟩

/-- **Changes are announced unless the store refuses the object.** A merge tells the listener at
most once, with the variant, the scope and the time that it was given. It tells it exactly if it
succeeds and some update changed a visible value when it came to it. If a visible value of the
object is another one afterwards, the listener was told, or the store refused to write the object
and the merge failed for that. -/
theorem announced_iff_stored {told : List Notice} {updates : List Update} {time : Int64}
    (reached : d.Reached) (listening : d.session.notices = some told)
    (done : stateAfter (merge variant scope updates time) d = d') :
    (d'.session.notices = some told ∨
      d'.session.notices = some ({ variant, scope, time } :: told)) ∧
    (d'.session.notices = some ({ variant, scope, time } :: told) ↔
      (∃ report, merge variant scope updates time d = .ok report d') ∧
        d.Reveals scope variant updates) ∧
    ∀ o o', d.Finds scope variant o → d'.Finds scope variant o' → o.Differs o' →
      d'.session.notices = some ({ variant, scope, time } :: told) ∨
        -- what the new state differs in was shown by one of the updates
        ∃ text, merge variant scope updates time d = .error (.storage text) d' ∧
          d'.RefusedWrite (scope.cell variant) text := by
  have other (notice : Notice) : some told ≠ some (notice :: told) := by
    simp
  rcases merge_cases reached.tidy variant scope updates time with ⟨error, d₁, failed, alike⟩ |
    ⟨o, handle, d₁, merges⟩
  · -- nothing was reached, so nothing differs
    obtain rfl : d₁ = d' := (stateAfter_of_error failed).symm.trans done
    have silent : d₁.session.notices = some told := alike.notices.trans listening
    -- nobody is told of a merge that failed
    refine ⟨.inl silent, ?_, fun p q before after differs => ?_⟩
    · rw [silent]
      refine ⟨fun same => absurd same (other _), fun ⟨⟨report, ran⟩, _⟩ => ?_⟩
      cases failed.symm.trans ran
    · -- what is found is what was found before, but for the origin
      obtain ⟨origin, rfl⟩ := before.unique (alike.finds_iff.mp after)
      obtain ⟨collection, key, differs⟩ := differs
      exact absurd rfl differs
  · -- the batch got to its object, and only the store can stand between that and the listener
    rcases merges.outcome with ⟨report, ran, changed, notices⟩ | ⟨text, failed, refused, notices⟩
    · obtain rfl : d₁ = d' := (stateAfter_of_ok ran).symm.trans done
      rw [← merges.finds.reveals_iff] at changed
      rw [listening] at notices
      by_cases reveals : d.Reveals scope variant updates
      · -- some update changed a visible value, and the listener was told
        rw [if_pos (changed.mpr reveals)] at notices
        exact ⟨.inr notices, ⟨fun _ => ⟨⟨report, ran⟩, reveals⟩, fun _ => notices⟩,
          fun _ _ _ _ _ => .inl notices⟩
      · -- no update changed anything visible, so no value is another one than before
        rw [if_neg fun told => reveals (changed.mp told)] at notices
        refine ⟨.inl notices, ?_, fun p q before after differs => ?_⟩
        · rw [notices]
          exact ⟨fun same => absurd same (other _), fun both => absurd both.2 reveals⟩
        · exact absurd (merges.finds.reveals_iff.mpr (merges.reveals before after differs)) reveals
    · -- the store refused the object: the call failed, and the values may differ
      obtain rfl : d₁ = d' := (stateAfter_of_error failed).symm.trans done
      rw [listening] at notices
      refine ⟨.inl notices, ?_, fun _ _ _ _ _ => .inr ⟨text, failed, refused⟩⟩
      rw [notices]
      refine ⟨fun same => absurd same (other _), fun ⟨⟨report, ran⟩, _⟩ => ?_⟩
      cases failed.symm.trans ran

/-- The push of an object of the account, sealed by one of its devices. -/
def sealedPush (ring : Seal.Keyring) (variant : Variant) (data : Bytes) : Update where
  hash := "m"
  data := ring.wrapWith (Vector.replicate _ 0) (Seal.Keyring.holder ring.user none) variant.name
    data

/-- An object that remembers no update takes over what it can read. -/
theorem take?_sealedPush {o : Object} {data : Bytes} {state : State}
    (hasScope : o.scope = .account) (live : o.destroyed = false) (new : o.mergedIds = [])
    (read : o.readUpdate data = .ok state) (ring : Seal.Keyring) :
    o.take? ring (sealedPush ring o.variant data) =
      some (o.state.joinReveals state, o.absorb "m" state) := by
  have opened : ring.unwrap (sealedPush ring o.variant data).data o.variant.name o.scope.group? =
      .ok data := by
    rw [hasScope]
    exact ring.unwrap_wrapWith _ none _ _
  have unknown : o.hasMerged (sealedPush ring o.variant data).hash = false := by
    rw [Object.hasMerged, new]
    rfl
  unfold Object.take?
  rw [opened]
  dsimp only
  rw [Object.merge_of_read live unknown read]
  rfl

/-- It becomes the object with that state taken over. -/
theorem received_sealedPush {o : Object} {data : Bytes} {state : State}
    (hasScope : o.scope = .account) (live : o.destroyed = false) (new : o.mergedIds = [])
    (read : o.readUpdate data = .ok state) (ring : Seal.Keyring) :
    o.received ring [sealedPush ring o.variant data] = o.absorb "m" state := by
  change o.take ring _ = _
  rw [Object.take_eq, take?_sealedPush hasScope live new read ring]
  rfl

/-- Contacts with one entry, at another device of the account. -/
def teller : Object :=
  { Object.blank .contacts .account 2 with
    state := State.empty.write "contacts" "x" ⟨5, 2, some "1"⟩ }

/-- Contacts at another device can be read here. -/
theorem readUpdate_teller {o : Object} (hasVariant : o.variant = .contacts) :
    o.readUpdate teller.push.data = .ok teller.state := by
  have short : ¬ maxSize < teller.pushFrame.length := by decide
  have fine : teller.state.check teller.variant = .ok () := rfl
  rw [Object.readUpdate_push teller o hasVariant, if_neg short, fine]

/-- A session that listens and asked for the contacts, over a store that may refuse to write
them. -/
def listener (refused : Option String) : Device :=
  stateAfter (SessionM.read .contacts .account)
    (stateAfter listen (opened { fresh 5 with store := { fault } } fresh.ring {}))
where
  /-- The row of the contacts is refused. -/
  fault (_ : List Access) (step : Access) : Option String :=
    if step = .write (Scope.account.cell .contacts) then refused else none

/-- It was opened, listened and read. -/
theorem reached_listener (refused : Option String) : (listener refused).Reached :=
  ⟨_, _, _, ((Runs.refl _).act .listen trivial).act (.read .contacts .account) trivial⟩

/-- The contacts that it made. -/
def newContacts : Object :=
  (Object.blank .contacts .account 0).withMemory defaultMemory

/-- What arrives for it. -/
def arriving : Update :=
  sealedPush fresh.ring .contacts teller.push.data

/-- The contacts take the entry over. -/
theorem received_arriving :
    newContacts.received fresh.ring [arriving] = newContacts.absorb "m" teller.state :=
  received_sealedPush rfl rfl rfl (readUpdate_teller rfl) fresh.ring

/-- They showed nothing under its key. -/
theorem get?_newContacts : newContacts.state.get? "contacts" "x" = none := by
  decide +kernel

/-- Now the key shows the entry. -/
theorem get?_absorbed :
    (newContacts.absorb "m" teller.state).state.get? "contacts" "x" = some "1" := by
  decide +kernel

/-- Over a store that takes the contacts, the listener is told of the entry. -/
theorem announced_iff_stored_listener :
    ∃ d' : Device, (listener none).Reached ∧ (listener none).session.notices = some [] ∧
      stateAfter (merge .contacts .account [arriving] 7) (listener none) = d' ∧
      d'.session.notices = some [{ variant := .contacts, scope := .account, time := 7 }] := by
  let d := listener none
  have reached : d.Reached := reached_listener none
  have tidy := reached.tidy
  have silent : d.session.notices = some [] := by decide +kernel
  have isOpen : d.session.closed = false := by decide +kernel
  have placed : (d.session.slot .account)[Variant.contacts]? = some 0 := by decide +kernel
  have new : d.session.object 0 = newContacts := by decide +kernel
  have ring : d.session.ring = fresh.ring := by decide +kernel
  have finds : d.Finds .account .contacts newContacts := .inl ⟨0, placed, new⟩
  -- the update comes first, and it gives the key another value
  have reveals : d.Reveals .account .contacts [arriving] := by
    refine ⟨newContacts, finds, [], arriving, [], rfl, "contacts", "x", ?_⟩
    rw [ring]
    change (newContacts.received fresh.ring [arriving]).state.get? "contacts" "x" ≠
      newContacts.state.get? "contacts" "x"
    rw [received_arriving, get?_absorbed, get?_newContacts]
    exact nofun
  -- the store refuses nothing, so the merge succeeds
  have stored : ∃ report, merge .contacts .account [arriving] 7 d =
      .ok report (stateAfter (merge .contacts .account [arriving] 7) d) := by
    have ready : d.Ready .account .contacts 0 :=
      ⟨tidy, isOpen, (fun _ other => nomatch other), placed⟩
    obtain ⟨d', merges⟩ := merges_of_reaches ready.reaches [arriving] 7
    -- a refusal would be a fault of the store, and this one has none
    rcases merges.outcome with ⟨report, ran, -⟩ | ⟨text, failed, ⟨past, -, refused⟩, -⟩
    · rw [stateAfter_of_ok ran]
      exact ⟨report, ran⟩
    · have chain := (Operation.merge .contacts .account [arriving] 7).chain tidy
      rw [stateAfter_of_error failed] at chain
      have same : d'.store.fault = d.store.fault :=
        chain.keeps (fun effect same => effect.steady.2.2.2.trans same) rfl
      have never : d.store.fault past (.write (Scope.account.cell .contacts)) = none := rfl
      rw [same, never] at refused
      cases refused
  obtain ⟨-, told, -⟩ := announced_iff_stored reached silent rfl
  exact ⟨_, reached, silent, rfl, told.mpr ⟨stored, reveals⟩⟩

/-- **A change that nobody is told of.** The store refuses to write the contacts. A listener waits,
an update arrives for contacts without entries and gives them one; the merge fails, the entry is
visible in memory, and the listener was not told. -/
theorem unannounced_change :
    ∃ (d d' : Device) (o o' : Object), d.Reached ∧ d.session.notices = some [] ∧
      stateAfter (merge .contacts .account [arriving] 7) d = d' ∧
      d.Finds .account .contacts o ∧ d'.Finds .account .contacts o' ∧
      o.state.get? "contacts" "x" = none ∧ o'.state.get? "contacts" "x" = some "1" ∧
      d'.session.notices = some [] := by
  let d := listener (some "disk full")
  have silent : d.session.notices = some [] := by decide +kernel
  have isOpen : d.session.closed = false := by decide +kernel
  have placed : (d.session.slot .account)[Variant.contacts]? = some 0 := by decide +kernel
  have new : d.session.object 0 = newContacts := by decide +kernel
  have known : 0 < d.session.objects.size := by decide +kernel
  have ring : d.session.ring = fresh.ring := by decide +kernel
  have ready : d.Ready .account .contacts 0 :=
    ⟨(reached_listener _).tidy, isOpen, (fun _ other => nomatch other), placed⟩
  -- the batch in memory is told by what the update makes of the contacts
  have ran := merge_of_ready ready [arriving] 7
  rw [new, ring, received_arriving] at ran
  let o := newContacts.absorb "m" teller.state
  let d₁ := d.setObject 0 o
  let refusal : Access := .write (Scope.account.cell .contacts)
  have now : d₁.session.object 0 = o := by
    rw [object_setObject, if_pos ⟨rfl, known⟩]
  have looks : object 0 d₁ = .ok o d₁ := congrArg (EStateM.Result.ok · d₁) now
  have ready₁ : d₁.Ready .account .contacts 0 :=
    ready.setObject (by rw [new]; rfl) (by rw [new]; rfl) (by rw [new]; rfl)
  -- the entry is in memory when the store refuses the object
  have failed : persistObject 0 7 d₁ = .error (.storage "disk full") (d₁.noted refusal) :=
    (ready₁.persistObject_eq 7).trans rfl
  have ended : merge .contacts .account [arriving] 7 d =
      .error (.storage "disk full") (d₁.noted refusal) := by
    rw [ran]
    change conclude 0 7 _ _ d₁ = _
    unfold conclude
    rw [bind_of_ok (checkOpen_of_open ready₁.isOpen), bind_of_ok looks]
    exact bind_of_error failed
  exact ⟨d, d₁.noted refusal, newContacts, o, reached_listener _, silent,
    stateAfter_of_error ended, .inl ⟨0, placed, new⟩, .inl ⟨0, placed, now⟩, get?_newContacts,
    get?_absorbed, silent⟩

end Device

end ConfigReplica
