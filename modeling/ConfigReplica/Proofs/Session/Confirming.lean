import ConfigReplica.Proofs.Session.Sync
import ConfigReplica.Proofs.Session.Waiting

/-!
# Pushes that are acknowledged

A session that is told that a push is held looks up the object, takes note of the hash and
stores the object. As long as the session is open over a store that works, and the scope
was not removed (`Device.Sends`), none of this fails. If nothing happened to the object
since it was pushed, it is clean then, in memory and in its row, and all other objects are
what they were (`SessionM.confirm_of_finds`).
-/

namespace ConfigReplica

open Config SessionM

/-- The object once its present revision is held under a hash, and the object is stored. -/
def Config.Object.settled (o : Object) (hash : String) : Object :=
  { o with dirty := false, currentHashes := [hash], needsDump := false }

/-- What is made of an object by the acknowledgement of its present revision, once it is stored. -/
theorem Config.Object.markDumped_confirm (o : Object) (hash : String) :
    (o.confirm o.seqno hash).markDumped = o.settled hash := by
  unfold Object.confirm
  rw [if_neg (UInt64.lt_irrefl _)]
  simp [Object.markDumped, Object.settled]

namespace Device

variable {d d' d₁ : Device} {scope other : Scope} {variant v : Variant} {handle : Handle}
  {o : Object} {scopes : List Scope} {hash : String}

/-- **A device that can send what waits in some scopes**: its session is open, its store works, and
none of the scopes was removed. -/
structure Sends (d : Device) (scopes : List Scope) : Prop where
  tidy : d.Tidy
  isOpen : d.session.closed = false
  works : d.store.Works
  admits : ∀ scope ∈ scopes, d.Admits scope

/-- It goes on to do so, whatever it loads, stores and takes note of. -/
theorem Sends.chain (sends : d.Sends scopes) {deed : Deed} (chain : Chain deed d d')
    (stores : deed.Stores) : d'.Sends scopes where
  tidy := chain.tidy sends.tidy
  isOpen := chain.isOpen stores sends.isOpen
  works := chain.works sends.works
  admits scope mem := by
    have keeps : deed.KeepsMarks := by
      cases deed <;> first | exact stores.elim | trivial
    exact chain.admits keeps (sends.admits scope mem)

/-- **The object of a scope and variant is in memory, and stored** at a time as it is there. -/
def Recorded (d : Device) (scope : Scope) (variant : Variant) (time : Int64) : Prop :=
  ∃ handle, d.Placed scope variant handle ∧ d.store.row? (scope.cell variant) =
    some (StoredObject.codec.write { time, dump := (d.session.object handle).dump })

/-- To look an object up does no more than load it. -/
theorem Reaches.loaded (reaches : d.Reaches scope variant handle d') (tidy : d.Tidy) :
    Loaded d d' := by
  obtain ⟨d₁, checked, ran⟩ := reaches.looked
  have alike := alike_of_checkPresent checked
  exact alike.loaded.trans (found_of_ok (alike.tidy tidy) ran).loaded

/-- **A push was acknowledged**: its object is clean, in memory and in its row, and all other
objects and rows are what they were. -/
structure Acknowledged (d : Device) (scope : Scope) (variant : Variant) (hash : String)
    (d' : Device) : Prop where
  here : d.Becomes (fun p q => q = p.settled hash) scope variant d'
  recorded : d'.Recorded scope variant d.clock
  others : ∀ {other v}, ¬ (other = scope ∧ v = variant) → d.Becomes Eq other v d'
  placed : ∀ {other v handle}, d.Placed other v handle → d'.Placed other v handle
  rows : ∀ cell, cell ≠ scope.cell variant → d'.store.row? cell = d.store.row? cell
  clock : d'.clock = d.clock
  ring : d'.session.ring = d.session.ring

/-- Objects may have been loaded before. -/
theorem Acknowledged.after (acked : d₁.Acknowledged scope variant hash d') (loaded : Loaded d d₁) :
    d.Acknowledged scope variant hash d' where
  here := loaded.becomes.trans acked.here fun first second => first ▸ second
  recorded := loaded.clock ▸ acked.recorded
  others differs := loaded.becomes.trans (acked.others differs) Eq.trans
  placed placed := acked.placed (loaded.placed placed).1
  rows cell other := (acked.rows cell other).trans (congrArg (fun rows => rows[cell]?) loaded.rows)
  clock := acked.clock.trans loaded.clock
  ring := acked.ring.trans loaded.ring

/-! ### An object in its slot -/

/-- The device once the object under a handle took note of the push of its present revision. -/
def noting (d : Device) (handle : Handle) (hash : String) : Device :=
  d.setObject handle ((d.session.object handle).confirm (d.session.object handle).seqno hash)

/-- The device once the object was stored after that. -/
def confirmed (d : Device) (handle : Handle) (hash : String) : Device :=
  (d.noting handle hash).dumped handle d.clock

/-- Nothing else about the device changes. -/
theorem steady_confirmed (d : Device) (handle : Handle) (hash : String) :
    (d.confirmed handle hash).session.slots = d.session.slots ∧
      (d.confirmed handle hash).clock = d.clock ∧
      (d.confirmed handle hash).session.ring = d.session.ring := by
  unfold confirmed noting dumped
  dsimp only
  split <;> exact ⟨rfl, rfl, rfl⟩

section Ready

variable (ready : d.Ready scope variant handle) (hash : String)
include ready

/-- An object that took note of a push is of the scope and variant that it was of. -/
theorem Ready.noting : (d.noting handle hash).Ready scope variant handle :=
  ready.setObject (Object.variant_confirm ..) (Object.scope_confirm ..)
    (Object.destroyed_confirm ..)

/-- What stands under the handle then. -/
theorem Ready.object_noting : (d.noting handle hash).session.object handle =
    (d.session.object handle).confirm (d.session.object handle).seqno hash := by
  obtain ⟨known, -⟩ := ready.tidy scope variant handle ready.placed
  exact (object_setObject ..).trans (if_pos ⟨rfl, known⟩)

/-- The object is marked for storing then. -/
theorem Ready.confirmed_eq : d.confirmed handle hash =
    ((d.noting handle hash).noted (.write (scope.cell variant))).saved handle d.clock := by
  refine (ready.noting hash).dumped_of_marked ?_ d.clock
  rw [ready.object_noting, Object.confirm, if_neg (UInt64.lt_irrefl _)]

/-- It is in its slot still. -/
theorem Ready.placed_confirmed : (d.confirmed handle hash).Placed scope variant handle :=
  ((ready.noting hash).dumped d.clock).placed

/-- It is clean, and not marked for storing. -/
theorem Ready.object_confirmed :
    (d.confirmed handle hash).session.object handle = (d.session.object handle).settled hash := by
  obtain ⟨known, -⟩ := (ready.noting hash).tidy scope variant handle ready.placed
  rw [confirmed, object_dumped known, ready.object_noting, Object.markDumped_confirm]

/-- Its row was written with it, and no other. -/
theorem Ready.row?_confirmed (cell : Cell) :
    (d.confirmed handle hash).store.row? cell =
      if cell = scope.cell variant
        then some (StoredObject.codec.write
          { time := d.clock, dump := ((d.session.object handle).settled hash).dump })
        else d.store.row? cell := by
  obtain ⟨-, -, hasScope, hasVariant, -⟩ :=
    (ready.noting hash).tidy scope variant handle ready.placed
  rw [ready.confirmed_eq, row?_saved, (Aside.noted _ _).object handle, hasScope, hasVariant,
    ready.object_noting, ← Object.markDumped_confirm]
  rfl

/-- All of this is done if the store works. -/
theorem Ready.confirm_eq (works : d.store.Works) :
    confirm variant scope (d.session.object handle).seqno hash d =
      .ok true (d.confirmed handle hash) := by
  obtain ⟨-, -, -, -, live⟩ := ready.tidy scope variant handle ready.placed
  -- no write is refused, so the object is stored as it is now
  have stored : persistObject handle d.clock (d.noting handle hash) =
      .ok () (d.confirmed handle hash) := by
    have works₁ : (d.noting handle hash).store.Works := works
    rw [(ready.noting hash).persistObject_eq, works₁, ready.confirmed_eq]
  have noted : SessionM.setObject handle ((d.session.object handle).confirm
      (d.session.object handle).seqno hash) d = .ok () (d.noting handle hash) := rfl
  have looks : object handle d = .ok (d.session.object handle) d := rfl
  refine (reach_of_ready ready _).trans ?_
  rw [bind_of_ok looks, live, if_neg (by simp)]
  refine (bind_of_ok noted).trans ((bind_of_ok stored).trans ?_)
  rw [Object.dirty_confirm, if_pos rfl]
  rfl

/-- No other object is touched. -/
theorem Ready.acknowledged : d.Acknowledged scope variant hash (d.confirmed handle hash) where
  here := by
    refine ⟨fun found => ⟨_, .inl ⟨handle, ready.placed, rfl⟩, ?_⟩,
      fun _ => ⟨_, .inl ⟨handle, ready.placed_confirmed hash, rfl⟩⟩⟩
    exact (found.eq_of_placed (ready.placed_confirmed hash)).trans (ready.object_confirmed hash)
  recorded := by
    refine ⟨handle, ready.placed_confirmed hash, ?_⟩
    rw [ready.row?_confirmed, if_pos rfl, ready.object_confirmed]
  -- what other slots hold was neither in this row nor under this handle
  others {other v} differs := by
    refine becomes_of_iff ?_
    intro q
    exact (((ready.noting hash).joined_dumped d.clock).others differs).trans
      (finds_setObject_other ready.tidy ready.placed differs)
  placed {other v i} placed := by
    unfold Placed Session.slot at placed ⊢
    rwa [(d.steady_confirmed handle hash).1]
  rows cell other := (ready.row?_confirmed hash cell).trans (if_neg other)
  clock := (d.steady_confirmed handle hash).2.1
  ring := (d.steady_confirmed handle hash).2.2

end Ready

end Device

namespace SessionM

open Device

variable {d : Device} {scope : Scope} {variant : Variant} {o : Object} {scopes : List Scope}

/-- **Taking note of a push** whose object is as it was pushed. More can be sent afterwards. -/
theorem confirm_of_finds (sends : d.Sends scopes) (mem : scope ∈ scopes)
    (admitted : scope.admits variant = true) (finds : d.Finds scope variant o) (hash : String) :
    ∃ d', confirm variant scope o.seqno hash d = .ok true d' ∧
      d.Acknowledged scope variant hash d' ∧ d'.Sends scopes := by
  -- the conditions under which an object is reached hold, so it is
  rcases reach_cases sends.tidy variant scope with ⟨_, _, -, -, never⟩ | ⟨handle, d₁, reaches⟩
  · exact absurd ⟨sends.isOpen, sends.admits scope mem, admitted, sends.works.answers, o, finds⟩
      never
  have ready := reaches.ready
  obtain ⟨origin, same⟩ := reaches.object_eq finds
  -- a drawn origin makes no difference to the number
  have revision : o.seqno = (d₁.session.object handle).seqno := by rw [same]
  have ran : confirm variant scope o.seqno hash d = .ok true (d₁.confirmed handle hash) := by
    rw [revision]
    exact (reach_of_reaches reaches _).trans
      (ready.confirm_eq hash (sends.works.of_fault reaches.fault))
  have chain := (Operation.confirm variant scope o.seqno hash).chain sends.tidy
  rw [stateAfter_of_ok ran] at chain
  exact ⟨_, ran, (ready.acknowledged hash).after (reaches.loaded sends.tidy),
    sends.chain chain trivial⟩

end SessionM

end ConfigReplica
