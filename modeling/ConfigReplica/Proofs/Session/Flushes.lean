import ConfigReplica.Proofs.Session.Sending

/-!
# What a flush settles

A flush stores what is marked for storing (`Device.Persisted`), and sends what waits in some
scopes, one scope after the other. `Device.flush_settles` says what it comes to in a session that
goes on meanwhile, over a store that works and a network that replies as it likes to each push
(`Device.Flushed`): there is one call for each object that waits; those that the network took are
clean, in memory and in their rows, and all others are what they were. It comes to the same in
whatever order the scopes are visited (`Device.Matches`).

What waits are the objects with local changes, but not in a scope of which one object cannot be
had: such a scope is passed over. And nothing more is sent once the network tells that the session
was closed (`Device.flush_leaves_unsettled`).
-/

namespace ConfigReplica

open Config SessionM

namespace Device

variable {d d' d₁ d₂ : Device} {scope : Scope} {variant : Variant} {handle : Handle}
  {replies : Replies} {scopes : List Scope} {acks : List (Scope × Variant)}

/-! ### Storing everything -/

/-- **A row was kept**: it is what it was, or the object whose row it is was stored. -/
def KeepsRow (d : Device) (cell : Cell) (d' : Device) : Prop :=
  d'.store.row? cell = d.store.row? cell ∨ ∃ scope variant handle time,
    d.Placed scope variant handle ∧ cell = scope.cell variant ∧ d'.store.row? cell =
      some (StoredObject.codec.write { time, dump := (d.session.object handle).dump })

/-- **Objects were stored**, and nothing else happened to them. -/
structure Persisted (d d' : Device) : Prop where
  slots : d'.session.slots = d.session.slots
  objects : ∀ handle,
    (d'.session.object handle).markDumped = (d.session.object handle).markDumped
  rows : ∀ cell, d.KeepsRow cell d'
  settings : d'.session.settings = d.session.settings
  ring : d'.session.ring = d.session.ring
  clock : d'.clock = d.clock

theorem Persisted.refl (d : Device) : d.Persisted d :=
  ⟨rfl, fun _ => rfl, fun _ => .inl rfl, rfl, rfl, rfl⟩

/-- Storing leaves the slots as they are. -/
theorem Persisted.placed_iff (persisted : d.Persisted d') :
    d'.Placed scope variant handle ↔ d.Placed scope variant handle := by
  unfold Placed Session.slot
  rw [persisted.slots]

/-- The mark is no part of what is stored. -/
theorem Persisted.dump_eq (persisted : d.Persisted d') (handle : Handle) :
    (d'.session.object handle).dump = (d.session.object handle).dump :=
  (congrArg Object.dump (persisted.objects handle) :)

/-- One more effect of storing. -/
theorem Persisted.effect (persisted : d.Persisted d₁) (tidy : d₁.Tidy)
    (effect : Effect .store d₁ d₂) : d.Persisted d₂ where
  slots := effect.stored_only.1.trans persisted.slots
  objects handle := (effect.stored_only.2 handle).1.trans (persisted.objects handle)
  rows cell := by
    -- a row that this effect leaves alone is one that was kept before
    have keeps (same : d₂.store.row? cell = d₁.store.row? cell) : d.KeepsRow cell d₂ := by
      unfold KeepsRow
      rw [same]
      exact persisted.rows cell
    -- reading leaves all rows alone, and storing writes that of an object in its slot
    rcases effect.quiet_cases (.inr rfl) with same | ⟨marks, -, -, rfl⟩ |
      ⟨scope, variant, handle, time, -, placed, rfl⟩
    · exact keeps (congrArg (fun rows => rows[cell]?) same.rows)
    · exact keeps rfl
    · have row := row?_saved d₁ handle time cell
      split at row
      · next here =>
        obtain ⟨-, -, hasScope, hasVariant, -⟩ := tidy scope variant handle placed
        refine .inr ⟨scope, variant, handle, time, persisted.placed_iff.mp placed, ?_, ?_⟩
        · rw [here, hasScope, hasVariant]
        · rw [row, persisted.dump_eq]
      · exact keeps row
  settings := effect.steady.2.1.trans persisted.settings
  ring := effect.steady.2.2.1.trans persisted.ring
  clock := effect.steady.1.trans persisted.clock

/-- Storing everything stores objects, and does nothing else. -/
theorem Chain.persisted (chain : Chain .store d d') (tidy : d.Tidy) : d.Persisted d' := by
  -- the induction is on the chain of effects
  induction chain with
  | refl => exact .refl d
  | tail past effect ih => exact ih.effect (Chain.tidy past tidy) effect

/-- The row of an object that is not in use is not written. -/
theorem Persisted.row_of_free (persisted : d.Persisted d')
    (free : (d.session.slot scope)[variant]? = none) :
    d'.store.row? (scope.cell variant) = d.store.row? (scope.cell variant) := by
  rcases persisted.rows (scope.cell variant) with same | ⟨other, v, handle, time, placed, same, -⟩
  · exact same
  · obtain ⟨rfl, rfl⟩ := Scope.cell_inj same
    cases free.symm.trans placed

/-- What is found is what was found, but for the mark. -/
theorem Persisted.becomes (persisted : d.Persisted d') (scope : Scope) (variant : Variant) :
    d.Becomes (fun p q => q.markDumped = p.markDumped) scope variant d' where
  came {q} found := by
    -- an object in memory has lost its mark; one that is to be loaded comes from the same row
    rcases found with ⟨handle, placed, rfl⟩ | ⟨free, loads⟩
    · exact ⟨_, .inl ⟨handle, persisted.placed_iff.mp placed, rfl⟩, persisted.objects handle⟩
    · have free' : (d.session.slot scope)[variant]? = none := by
        unfold Session.slot at free ⊢
        rwa [persisted.slots] at free
      exact ⟨q, .inr ⟨free', loads.congr (persisted.row_of_free free').symm
        persisted.settings.symm⟩, rfl⟩
  stays {p} finds := by
    rcases finds with ⟨handle, placed, rfl⟩ | ⟨free, loads⟩
    · exact ⟨_, .inl ⟨handle, persisted.placed_iff.mpr placed, rfl⟩⟩
    · have free' : (d'.session.slot scope)[variant]? = none := by
        unfold Session.slot at free ⊢
        rwa [persisted.slots]
      exact ⟨p, .inr ⟨free', loads.congr (persisted.row_of_free free) persisted.settings⟩⟩

/-- Storing does not change what waits in a scope. -/
theorem Persisted.pending_eq (persisted : d.Persisted d') (scope : Scope) :
    d'.pending scope = d.pending scope :=
  pending_congr (fun variant _ => persisted.becomes scope variant) fun same =>
    (congrArg Object.dirty same :)

/-- Nor does it in several scopes. -/
theorem Persisted.pendingIn_eq (persisted : d.Persisted d') (scopes : List Scope) :
    d'.pendingIn scopes = d.pendingIn scopes := by
  unfold pendingIn
  simp only [persisted.pending_eq]

/-- A call that tells of what is there once everything is stored tells of what was there. -/
theorem Persisted.tells {call : Call} (persisted : d.Persisted d')
    (tells : call.Tells d' scope variant) : call.Tells d scope variant := by
  obtain ⟨q, push, found, carries, rfl⟩ := tells
  obtain ⟨p, finds, same⟩ := (persisted.becomes scope variant).came found
  refine ⟨p, push, finds, ?_, ?_⟩
  · rw [← PendingPush.carries_markDumped, ← same, PendingPush.carries_markDumped, ← persisted.ring]
    exact carries
  · rw [Session.destinationOf_of_ring persisted.ring]

/-! ### What a flush comes to -/

/-- **What a flush of some scopes comes to**, where the network replies like this. -/
structure Flushed (replies : Replies) (d : Device) (scopes : List Scope) (report : FlushReport)
    (calls : List Call) (d' : Device) : Prop where
  /-- What waits are the objects with local changes, in those of the scopes all of whose objects can
  be had. -/
  waiting : ∀ {scope variant o}, scope.admits variant = true → d.Finds scope variant o →
    ((scope, variant) ∈ d.pendingIn scopes ↔ scope ∈ scopes ∧ o.dirty = true ∧
      ∀ v, scope.admits v = true → ∃ p, d.Finds scope v p)
  /-- Each of them is told of in one call. -/
  calls : List.Forall₂ (fun slot call => call.Tells d slot.1 slot.2) (d.pendingIn scopes) calls
  /-- None of them waits twice. -/
  once : (d.pendingIn scopes).Nodup
  /-- The report counts those that were pushed, and those that were not. -/
  report : report = { pushed := (d.pendingIn scopes).countP replies.succeeds
                      failed := (d.pendingIn scopes).countP fun slot => !replies.succeeds slot }
  /-- Those that were pushed are clean, and stored so. -/
  settled : ∀ {scope variant hash}, (scope, variant) ∈ d.pendingIn scopes →
    replies scope variant = .ok hash →
    d.Becomes (fun p q => q = p.settled hash) scope variant d' ∧ d'.Recorded scope variant d.clock
  /-- All others are what they were, but may have been stored. -/
  kept : ∀ {scope variant},
    ¬ ((scope, variant) ∈ d.pendingIn scopes ∧ replies.succeeds (scope, variant) = true) →
    d.Becomes (fun p q => q.markDumped = p.markDumped) scope variant d'
  rows : ∀ cell,
    (∀ slot ∈ d.pendingIn scopes, replies.succeeds slot = true → cell ≠ slot.1.cell slot.2) →
    d.KeepsRow cell d'

/-- **Two devices hold the same objects and rows.** Objects that were never changed are made when
they are needed, and get another origin each time. -/
structure Matches (d d' : Device) : Prop where
  objects : ∀ {scope variant o o'}, d.Finds scope variant o → d'.Finds scope variant o' →
    ∃ origin, o' = { o with origin }
  rows : ∀ cell, d'.store.row? cell = d.store.row? cell

/-- What a flush has come to once its last push was sent. -/
theorem Progress.flushed {calls : List Call} (persisted : d.Persisted d₁)
    (progress : d₁.Progress replies ((d.pendingIn scopes).filter replies.succeeds) d')
    (distinct : scopes.Nodup)
    (tells : List.Forall₂ (fun slot call => call.Tells d slot.1 slot.2) (d.pendingIn scopes) calls) :
    d.Flushed replies scopes (replies.count {} (d.pendingIn scopes)) calls d' where
  waiting {scope variant o} admitted finds := by
    -- what waits was defined by what is found, so it is a matter of unfolding
    rw [mem_pendingIn, mem_pending, waits_of_finds finds, serves_iff]
    exact ⟨fun ⟨mem, served, _, dirty⟩ => ⟨mem, dirty, served⟩,
      fun ⟨mem, dirty, served⟩ => ⟨mem, served, admitted, dirty⟩⟩
  calls := tells
  once := d.nodup_pendingIn distinct
  report := by simp [Replies.count]
  settled {scope variant hash} mem ok := by
    have succeeds : replies.succeeds (scope, variant) = true := by
      rw [Replies.succeeds, ok]
      rfl
    obtain ⟨_, same, becomes, recorded⟩ :=
      progress.settled (List.mem_filter.mpr ⟨mem, succeeds⟩)
    cases ok.symm.trans same
    refine ⟨(persisted.becomes scope variant).trans becomes fun first second => ?_, ?_⟩
    · -- an object that is settled has no mark
      exact second.trans (congrArg (Object.settled · hash) first :)
    · rwa [persisted.clock] at recorded
  -- what failed or did not wait is among no acknowledgements
  kept {scope variant} other := by
    have unsent : (scope, variant) ∉ (d.pendingIn scopes).filter replies.succeeds :=
      fun mem => other (List.mem_filter.mp mem)
    refine (persisted.becomes scope variant).trans (progress.kept unsent) ?_
    rintro p q _ same rfl
    exact same
  rows cell others := by
    unfold KeepsRow
    rw [progress.rows cell fun slot mem => others slot (List.mem_filter.mp mem).1
      (List.mem_filter.mp mem).2]
    exact persisted.rows cell

/-- The order in which pushes were sent makes no difference. -/
theorem Progress.matches {acks' : List (Scope × Variant)} (first : d.Progress replies acks d₁)
    (second : d.Progress replies acks' d₂) (same : ∀ slot, slot ∈ acks' ↔ slot ∈ acks)
    (dirty : ∀ slot ∈ acks, d.waits slot.1 slot.2 = true) : d₁.Matches d₂ where
  objects {scope variant o o'} found found' := by
    -- both settled the object with the same reply, and what they settled differs by its origin only
    by_cases acked : (scope, variant) ∈ acks
    · obtain ⟨hash, ok, becomes, -⟩ := first.settled acked
      obtain ⟨hash', ok', becomes', -⟩ := second.settled ((same _).mpr acked)
      cases ok.symm.trans ok'
      obtain ⟨p, finds, rfl⟩ := becomes.came found
      obtain ⟨p', finds', rfl⟩ := becomes'.came found'
      obtain ⟨origin, rfl⟩ := finds.unique finds'
      exact ⟨origin, rfl⟩
    · -- neither touched the object
      obtain ⟨p, finds, rfl⟩ := (first.kept acked).came found
      obtain ⟨p', finds', rfl⟩ := (second.kept fun mem => acked ((same _).mp mem)).came found'
      exact finds.unique finds'
  rows cell := by
    -- a row that changed is that of an acknowledged object, and both wrote it
    by_cases acked : ∃ slot ∈ acks, cell = slot.1.cell slot.2
    · obtain ⟨⟨scope, variant⟩, mem, rfl⟩ := acked
      obtain ⟨hash, ok, becomes, handle, placed, row⟩ := first.settled mem
      obtain ⟨hash', ok', becomes', handle', placed', row'⟩ := second.settled ((same _).mpr mem)
      cases ok.symm.trans ok'
      obtain ⟨p, finds, object⟩ := becomes.came (.inl ⟨handle, placed, rfl⟩)
      obtain ⟨p', finds', object'⟩ := becomes'.came (.inl ⟨handle', placed', rfl⟩)
      -- no origin is drawn for an object with local changes
      obtain rfl := finds.eq_of_dirty finds' ((waits_of_finds finds).symm.trans (dirty _ mem))
      rw [row, row', object, object']
    · rw [first.rows cell fun slot mem here => acked ⟨slot, mem, here⟩,
        second.rows cell fun slot mem here => acked ⟨slot, (same _).mp mem, here⟩]

end Device

namespace OnlineM

open Device

variable {d : Device} {replies : Replies} {scopes : List Scope}

/-- To attempt something on the device leaves what the action leaves. -/
theorem discard_attempt_onDevice {σ α : Type} (action : SessionM α) (d : Device) (network : σ) :
    (discard (attempt (onDevice action)) : OnlineM σ Unit) ⟨d, network⟩ =
      .ok () ⟨stateAfter action d, network⟩ := by
  cases ran : action d with
  | ok x d' =>
    rw [discard_of_ok (attempt_of_ok (onDevice_of_ok ran)), stateAfter_of_ok ran]
  | error error d' =>
    rw [discard_of_ok (attempt_of_error (onDevice_of_error ran)), stateAfter_of_error ran]

/-- **A flush**: everything is stored, and what waits in the scopes is sent. -/
theorem flush_of_sends (lasting : replies.Lasting)
    (sends : d.Sends scopes) (distinct : scopes.Nodup) :
    ∃ calls d', flush replies.carrier (scopes.map d.session.destinationOf) ⟨d, []⟩ =
        .ok (replies.count {} (d.pendingIn scopes)) ⟨d', calls⟩ ∧
      (stateAfter persistAll d).Progress replies ((d.pendingIn scopes).filter replies.succeeds) d' ∧
      d.Flushed replies scopes (replies.count {} (d.pendingIn scopes)) calls d' := by
  -- what is sent is what waits once all is stored, which is what waited before
  have chain := Operation.persistAll.chain sends.tidy
  have persisted := chain.persisted sends.tidy
  obtain ⟨calls, d', ran, progress, tells⟩ := sendAll_of_sends lasting
    (.refl replies (stateAfter persistAll d)) (sends.chain chain trivial) (List.Subset.refl scopes)
    distinct (fun _ => nofun) {} []
  rw [persisted.pendingIn_eq] at ran progress tells
  rw [funext (Session.destinationOf_of_ring persisted.ring)] at ran
  refine ⟨calls, d', (bind_of_ok (discard_attempt_onDevice _ _ _)).trans ran, progress, ?_⟩
  exact progress.flushed persisted distinct (tells.imp fun _ _ tells => persisted.tells tells)

end OnlineM

namespace Device

open OnlineM

/-- **A flush settles what waits.** In an open session over a store that works, each object that
waits in one of the scopes is told of in one call, whatever the network replies but that the session
was closed. Those that were pushed are clean, in memory and in their rows; those that failed wait
still; and nothing else changes than that objects are stored. The scopes can be visited in any
order. -/
theorem flush_settles {d : Device} {replies : Replies} {scopes : List Scope} (reached : d.Reached)
    (isOpen : d.session.closed = false) (works : d.store.Works) (distinct : scopes.Nodup)
    (admits : ∀ scope ∈ scopes, d.Admits scope)
    (lasting : replies.Lasting) :
    ∃ report calls d',
      flush replies.carrier (scopes.map d.session.destinationOf) ⟨d, []⟩ =
        .ok report ⟨d', calls⟩ ∧
      d.Flushed replies scopes report calls d' ∧
      ∀ others, others.Perm scopes → ∃ calls' d'',
        flush replies.carrier (others.map d.session.destinationOf) ⟨d, []⟩ =
          .ok report ⟨d'', calls'⟩ ∧
        d.Flushed replies others report calls' d'' ∧ d'.Matches d'' := by
  have sends : d.Sends scopes := ⟨reached.tidy, isOpen, works, admits⟩
  obtain ⟨calls, d', ran, progress, flushed⟩ := flush_of_sends lasting sends distinct
  -- another order has the same slots waiting, and counts the same
  refine ⟨_, calls, d', ran, flushed, fun others perm => ?_⟩
  have sends' : d.Sends others :=
    ⟨reached.tidy, isOpen, works, fun scope mem => admits scope (perm.mem_iff.mp mem)⟩
  obtain ⟨calls', d'', ran', progress', flushed'⟩ :=
    flush_of_sends lasting sends' (perm.nodup_iff.mpr distinct)
  have waiting : (d.pendingIn others).Perm (d.pendingIn scopes) := perm.flatMap_right _
  have counts : replies.count {} (d.pendingIn others) = replies.count {} (d.pendingIn scopes) := by
    simp only [Replies.count, waiting.countP_eq]
  rw [counts] at ran' flushed'
  refine ⟨calls', d'', ran', flushed', progress.matches progress' (fun slot => ?_) ?_⟩
  · exact (waiting.filter _).mem_iff
  · -- what is acknowledged had local changes before the flush as well
    intro slot mem
    have persisted := (Operation.persistAll.chain reached.tidy).persisted reached.tidy
    rw [← persisted.pendingIn_eq] at mem
    exact (mem_pending.mp (mem_pendingIn.mp (List.mem_of_mem_filter mem)).2).2.2

/-- A call is made in the namespace of the variant that it tells of. -/
theorem space_of_tells {call : Call} (tells : call.Tells d scope variant) (tidy : d.Tidy) :
    call.space = variant.namespaceId := by
  obtain ⟨o, push, finds, carries, rfl⟩ := tells
  rw [PendingPush.call, carries.variant, (finds.fits tidy).1]

/-- A network that always takes what it is given never ends a session. -/
theorem lasting_of_ok (hash : String) : Replies.Lasting fun _ _ => .ok hash :=
  fun _ _ => nofun

/-- The account of the editor can be sent. -/
theorem sends_editor : (editor none).Sends [.account] where
  tidy := (reached_editor none).tidy
  isOpen := by decide +kernel
  works past step := by
    rw [fault_editor]
    exact ite_self none
  admits scope mem := by
    obtain rfl := List.mem_singleton.mp mem
    exact nofun

/-- The edited contacts wait. -/
theorem pending_editor : (editor none).pending .account = [.contacts] := by
  decide +kernel

/-- They wait as part of the account. -/
theorem pendingIn_editor : (editor none).pendingIn [.account] = [(.account, .contacts)] := by
  rw [pendingIn, List.flatMap_singleton, pending_editor, List.map_singleton]

/-- The session once it named a group as well. -/
def groupEditor : Device :=
  stateAfter (SessionM.edit .groupInfo (.group someGroup) (EditM.set "info" "name" "1"))
    (editor none)

/-- Naming a group is an operation. -/
theorem operation_name : Operation .work
    (SessionM.edit .groupInfo (.group someGroup) (EditM.set "info" "name" "1")) :=
  .edit .groupInfo (.group someGroup) (.set "info" "name" "1")

/-- The session is reached by its two edits. -/
theorem reached_groupEditor : groupEditor.Reached :=
  ⟨_, _, _, ((Runs.refl _).act operation_edit trivial).act operation_name trivial⟩

/-- The group was not removed: the session has read that nothing is marked. -/
theorem sends_groupEditor : groupEditor.Sends [.group someGroup, .account] where
  tidy := reached_groupEditor.tidy
  isOpen := by decide +kernel
  works := (operation_name.chain sends_editor.tidy).works sends_editor.works
  admits scope mem group same := by
    have known : groupEditor.session.removed = some ∅ := by decide +kernel
    refine ⟨∅, ?_, fun time marked => ?_⟩
    · unfold GoesBy
      rw [known]
    · simp at marked

/-- Both edited objects wait. -/
theorem pendingIn_groupEditor : groupEditor.pendingIn [.group someGroup, .account] =
    [(.group someGroup, .groupInfo), (.account, .contacts)] := by
  decide +kernel

/-- A network that cannot reach groups. -/
def withoutGroups : Replies
  | .account, _ => .ok "h"
  | .group _, _ => .error (.transport (.other "down"))

/-- A network that cannot be reached does not end a session. -/
theorem lasting_withoutGroups : withoutGroups.Lasting
  | .account, _ => nofun
  | .group _, _ => nofun

/-- **A push that fails holds nothing up.** A contact and the name of a group were edited, and no
group can be reached. Whichever is sent first, the contact is pushed and clean, and the group waits
still. -/
theorem flush_settles_contact :
    ∃ d d' d'' calls calls' group, d.Reached ∧
      d.pendingIn [.group group, .account] = [(.group group, .groupInfo), (.account, .contacts)] ∧
      flush withoutGroups.carrier [.closedGroup group, .contact d.session.ring.user] ⟨d, []⟩ =
        .ok { pushed := 1, failed := 1 } ⟨d', calls⟩ ∧
      calls.map Call.space = [Variant.groupInfo.namespaceId, Variant.contacts.namespaceId] ∧
      (∃ o, d'.Finds .account .contacts o ∧ o.dirty = false ∧ o.currentHashes = ["h"]) ∧
      (∃ o, d'.Finds (.group group) .groupInfo o ∧ o.dirty = true) ∧
      flush withoutGroups.carrier [.contact d.session.ring.user, .closedGroup group] ⟨d, []⟩ =
        .ok { pushed := 1, failed := 1 } ⟨d'', calls'⟩ ∧
      d'.Matches d'' := by
  have sends := sends_groupEditor
  obtain ⟨report, calls, d', ran, flushed, swapped⟩ :=
    flush_settles reached_groupEditor sends.isOpen sends.works (by decide) sends.admits
      lasting_withoutGroups
  obtain ⟨calls', d'', ran', -, same⟩ := swapped [.account, .group someGroup] (.swap ..)
  have waiting := pendingIn_groupEditor
  have counted : report = { pushed := 1, failed := 1 } := by
    rw [flushed.report, waiting]
    rfl
  subst counted
  refine ⟨groupEditor, d', d'', calls, calls', someGroup, reached_groupEditor, waiting, ran, ?_, ?_,
    ?_, ran', same⟩
  · -- there are two calls, one for each object, in the order of the scopes
    have spaces := flushed.calls.imp fun slot call tells => space_of_tells tells sends.tidy
    rw [waiting] at spaces
    cases spaces with
    | cons first rest =>
      cases rest with
      | cons second none =>
        cases none
        rw [List.map_cons, List.map_singleton, first, second]
  · -- the contact was pushed, so it is in memory
    have waits : (Scope.account, Variant.contacts) ∈
        groupEditor.pendingIn [.group someGroup, .account] := by
      rw [waiting]
      exact List.mem_cons_of_mem _ (List.mem_singleton_self _)
    obtain ⟨becomes, handle, placed, -⟩ := flushed.settled waits rfl
    have found : d'.Finds .account .contacts (d'.session.object handle) := .inl ⟨handle, placed, rfl⟩
    obtain ⟨p, -, settled⟩ := becomes.came found
    exact ⟨_, found, by rw [settled]; rfl, by rw [settled]; rfl⟩
  · -- the group was not pushed, so it is what it was but for the mark
    have kept : groupEditor.Becomes (fun p q => q.markDumped = p.markDumped) (.group someGroup)
        .groupInfo d' := flushed.kept fun ⟨_, pushed⟩ => Bool.false_ne_true pushed
    have placed : (groupEditor.session.slot (.group someGroup))[Variant.groupInfo]? = some 1 := by
      decide +kernel
    obtain ⟨o, found⟩ := kept.stays (.inl ⟨1, placed, rfl⟩)
    obtain ⟨p, finds, same⟩ := kept.came found
    obtain rfl := finds.eq_of_placed placed
    exact ⟨o, found, (congrArg Object.dirty same).trans (by decide +kernel)⟩

/-! ### Pushes that are not settled -/

/-- The row of a profile that a later version has written. -/
def laterRow : Bytes :=
  StoredObject.codec.write { time := 1, dump := later.pack }
where
  later : DumpFrame := { (Object.blank .userProfile .account 0).dumpFrame with version := 2 }

/-- A session over a store with such a row, once it set a field of a contact. -/
def outdated : Device :=
  stateAfter (SessionM.edit .contacts .account (EditM.setField .word "contacts" "x" 1))
    (opened { fresh 5 with store := Store.insert {} (Scope.account.cell .userProfile) laterRow }
      fresh.ring {})

/-- Such a profile cannot be had: its row is of a version that is not known. -/
theorem lookup_outdated : outdated.lookup .account .userProfile = none := by
  have free : (outdated.session.slot .account)[Variant.userProfile]? = none := by decide +kernel
  have row : outdated.store.row? (Scope.account.cell .userProfile) = some laterRow := by
    decide +kernel
  have decoded : StoredObject.codec.decode laterRow =
      .ok { time := 1, dump := laterRow.later.pack } :=
    Codec.decode_write StoredObject.faithful_codec _ (by decide +kernel)
  have refused : Object.load .userProfile .account laterRow.later.pack =
      .error (.data (.version 2)) := by
    unfold Object.load
    rw [DumpFrame.unpack_pack, if_neg (by decide +kernel)]
    rfl
  rw [lookup_of_free free, loads?, row]
  simp only [decoded, refused]

/-- The session is reached by its edit. -/
theorem reached_outdated : outdated.Reached :=
  ⟨_, _, _, (Runs.refl _).act operation_edit trivial⟩

/-- All that sending asks of the session holds. -/
theorem sends_outdated : outdated.Sends [.account] where
  tidy := reached_outdated.tidy
  isOpen := by decide +kernel
  works := (operation_edit.chain (tidy_opened _ _ _)).works fun _ _ => rfl
  admits scope mem := by
    obtain rfl := List.mem_singleton.mp mem
    exact nofun

/-- No object of the account waits in such a session. -/
theorem pendingIn_outdated : outdated.pendingIn [.account] = [] := by
  -- one object of the account cannot be had, and that is enough
  have missing : outdated.serves .account = false :=
    List.all_eq_false.mpr ⟨.userProfile, by decide, by rw [lookup_outdated]; decide⟩
  simp [pendingIn, pending, missing]

/-- A flush in which the first call tells of a closed session. -/
theorem flush_of_ended {replies : Replies} (ended : ∀ scope variant,
    replies scope variant = .error .sessionClosed) {d : Device} (sends : d.Sends [.account])
    (waits : d.pending .account ≠ []) :
    ∃ d' call, flush replies.carrier [.contact d.session.ring.user] ⟨d, []⟩ =
      .ok {} ⟨d', [call]⟩ := by
  let d₁ := stateAfter persistAll d
  have chain := Operation.persistAll.chain sends.tidy
  have persisted := chain.persisted sends.tidy
  have sends₁ := sends.chain chain trivial
  let home : Destination := .contact d.session.ring.user
  have waiting : d₁.pending home.scope = d.pending .account := persisted.pending_eq .account
  -- either the pushes were collected, or none of the scope can be
  rcases pendingPushes_cases sends₁.tidy sends₁.isOpen sends₁.works home with
    ⟨pushes, d₂, ran, -, carry⟩ | ⟨_, _, -, -, -, nothing⟩
  · rw [waiting] at carry
    cases pushes with
    | nil => exact absurd (List.forall₂_nil_right_iff.mp carry) waits
    | cons push pushes =>
      -- the first call is made, and its error ends the sending
      have failed : sendPush replies.carrier home push ⟨d₂, []⟩ =
          .error .sessionClosed ⟨d₂, [push.call home]⟩ :=
        sendPush_of_error home [] (ended _ _) d₂
      have left : sendPushes replies.carrier home {} (push :: pushes) ⟨d₂, []⟩ =
          .ok ({}, false) ⟨d₂, [push.call home]⟩ := bind_of_ok (attempt_of_error failed)
      refine ⟨d₂, push.call home, ?_⟩
      refine (bind_of_ok (discard_attempt_onDevice persistAll _ _)).trans ?_
      exact (bind_of_ok (attempt_of_ok (onDevice_of_ok ran))).trans (bind_of_ok left)
  · exact absurd (waiting.symm.trans nothing) waits

/-- **Pushes that are not settled.** Where the row of the profile was written by a later version, a
flush of the account sends nothing of the contacts either, although these were edited and are in
memory. And a network that tells of a closed session ends the flush, which counts its call neither
as a push nor as a failure. -/
theorem flush_leaves_unsettled :
    (∃ (d d' : Device), d.Reached ∧ d.session.closed = false ∧ d.store.Works ∧
      d.Finds .account .contacts editedContacts ∧
      flush (Replies.carrier fun _ _ => .ok "h") [.contact d.session.ring.user] ⟨d, []⟩ =
        .ok { pushed := 0, failed := 0 } ⟨d', []⟩ ∧
      ∃ o, d'.Finds .account .contacts o ∧ o.dirty = true) ∧
    ∃ d d' call, d.Reached ∧ d.session.closed = false ∧ d.store.Works ∧
      d.pendingIn [.account] = [(.account, .contacts)] ∧
      flush (Replies.carrier fun _ _ => .error .sessionClosed) [.contact d.session.ring.user]
        ⟨d, []⟩ = .ok { pushed := 0, failed := 0 } ⟨d', [call]⟩ := by
  constructor
  · -- the scope is passed over: there are no calls, and the object is what it was but for the mark
    have sends := sends_outdated
    have placed : (outdated.session.slot .account)[Variant.contacts]? = some 0 := by decide +kernel
    have edited : outdated.session.object 0 = editedContacts := by decide +kernel
    have finds : outdated.Finds .account .contacts editedContacts := .inl ⟨0, placed, edited⟩
    obtain ⟨calls, d', ran, -, flushed⟩ :=
      flush_of_sends (lasting_of_ok "h") sends (List.nodup_singleton _)
    have unsent : calls = [] := by
      have tells := flushed.calls
      rw [pendingIn_outdated] at tells
      exact List.forall₂_nil_left_iff.mp tells
    subst unsent
    rw [pendingIn_outdated] at ran
    have kept : outdated.Becomes (fun p q => q.markDumped = p.markDumped) .account .contacts d' :=
      flushed.kept fun waits => by
        rw [pendingIn_outdated] at waits
        cases waits.1
    obtain ⟨o, found⟩ := kept.stays finds
    obtain ⟨p, before, same⟩ := kept.came found
    obtain rfl := finds.eq_of_dirty before rfl
    exact ⟨outdated, d', reached_outdated, sends.isOpen, sends.works, finds, ran, o, found,
      (congrArg Object.dirty same :)⟩
  · -- the first push ends the flush, whatever else waits
    have sends := sends_editor
    have waits : (editor none).pending .account ≠ [] := by
      rw [pending_editor]
      exact List.cons_ne_nil _ _
    obtain ⟨d', call, ran⟩ := flush_of_ended (fun _ _ => rfl) sends waits
    exact ⟨editor none, d', call, reached_editor none, sends.isOpen, sends.works, pendingIn_editor,
      ran⟩

end Device

end ConfigReplica
