import ConfigReplica.Proofs.Session.Durability
import ConfigReplica.Proofs.Session.Outcomes

/-!
# Getting to an object

Operations on an object begin alike: the scope is checked, and the object is looked up
(`SessionM.reach`). Either this fails, whatever was to be done with the object, and leaves all as it
was; or the device is ready to work on the object (`Device.Ready`), and what is done with it comes
to the same as if it had been looked up before (`SessionM.reach_of_reaches`).

An object that was not in use is loaded or made when it is looked up (`Device.Finds`), and nothing
else comes of that (`Device.Found`). A lookup does not fail as long as the session is open, the
scope was not removed, the variant is one of the scope, rows can be read and the object can be had
(`SessionM.reach_cases`).
-/

namespace ConfigReplica

open Config SessionM

/-! ### The object of a scope and variant -/

namespace Device

variable {d d' : Device} {scope : Scope} {variant : Variant} {handle : Handle} {o o' : Object}

/-- The object of a scope and variant: the one in its slot or, where the slot is free, one that is
loaded or made for it. -/
def Finds (d : Device) (scope : Scope) (variant : Variant) (o : Object) : Prop :=
  (∃ handle, d.Placed scope variant handle ∧ d.session.object handle = o) ∨
    (d.session.slot scope)[variant]? = none ∧ d.Loads scope variant o

/-- Alike devices find the same. -/
theorem Alike.finds_iff (alike : Alike d d') :
    d'.Finds scope variant o ↔ d.Finds scope variant o := by
  unfold Finds
  simp only [alike.placed_iff, alike.loads_iff, alike.object, alike.slot]

/-- There is one such object, but for the origin of a new one, which is drawn when it is made. -/
theorem Finds.unique (first : d.Finds scope variant o) (second : d.Finds scope variant o') :
    ∃ origin, o' = { o with origin } := by
  rcases first with ⟨handle, placed, rfl⟩ | ⟨free, loads⟩
  · rcases second with ⟨other, placed', rfl⟩ | ⟨free, -⟩
    · obtain rfl : handle = other := Option.some.inj (placed.symm.trans placed')
      exact ⟨_, rfl⟩
    · cases placed.symm.trans free
  · rcases second with ⟨other, placed', rfl⟩ | ⟨-, loads'⟩
    · cases placed'.symm.trans free
    · -- neither is in a slot, so both are what the row holds, or new where there is no row
      unfold Loads at loads loads'
      split at loads
      · next none =>
        rw [none] at loads'
        obtain ⟨_, rfl⟩ := loads
        obtain ⟨origin, rfl⟩ := loads'
        exact ⟨origin, rfl⟩
      · next bytes some =>
        rw [some] at loads'
        obtain ⟨stored, p, decoded, loaded, rfl⟩ := loads
        obtain ⟨stored', p', decoded', loaded', rfl⟩ := loads'
        cases decoded.symm.trans decoded'
        cases loaded.symm.trans loaded'
        exact ⟨_, rfl⟩

/-- What is found is a live object of its scope and variant. -/
theorem Finds.fits (finds : d.Finds scope variant o) (tidy : d.Tidy) :
    o.variant = variant ∧ o.scope = scope ∧ o.destroyed = false := by
  rcases finds with ⟨handle, placed, rfl⟩ | ⟨-, loads⟩
  · obtain ⟨-, -, hasScope, hasVariant, live⟩ := tidy scope variant handle placed
    exact ⟨hasVariant, hasScope, live⟩
  · exact loads.fits

end Device

namespace Device

variable {d d' d'' : Device} {scope : Scope} {variant : Variant} {handle : Handle} {o : Object}

/-! ### Looking at objects -/

/-- **Objects were loaded**: those that were in use are in their slots as before, and what is found
now was found before. -/
structure Loaded (d d' : Device) : Prop where
  placed : ∀ {scope variant handle}, d.Placed scope variant handle →
    d'.Placed scope variant handle ∧ d'.session.object handle = d.session.object handle
  finds : ∀ {scope variant o}, d'.Finds scope variant o → d.Finds scope variant o
  notices : d'.session.notices = d.session.notices := by rfl
  settings : d'.session.settings = d.session.settings := by rfl
  ring : d'.session.ring = d.session.ring := by rfl
  closed : d'.session.closed = d.session.closed := by rfl
  rows : d'.store.rows = d.store.rows := by rfl
  fault : d'.store.fault = d.store.fault := by rfl
  clock : d'.clock = d.clock := by rfl

namespace Loaded

theorem trans (first : Loaded d d') (second : Loaded d' d'') : Loaded d d'' where
  placed placed := by
    obtain ⟨placed', same⟩ := first.placed placed
    obtain ⟨placed'', same'⟩ := second.placed placed'
    exact ⟨placed'', same'.trans same⟩
  finds finds := first.finds (second.finds finds)
  notices := second.notices.trans first.notices
  settings := second.settings.trans first.settings
  ring := second.ring.trans first.ring
  closed := second.closed.trans first.closed
  rows := second.rows.trans first.rows
  fault := second.fault.trans first.fault
  clock := second.clock.trans first.clock

end Loaded

/-- Nothing is placed in a slot that is free. -/
theorem slot_eq_none_iff :
    (d.session.slot scope)[variant]? = none ↔ ∀ handle, ¬ d.Placed scope variant handle :=
  Option.eq_none_iff_forall_ne_some

/-- A slot that is free was free. -/
theorem Loaded.free (loaded : Loaded d d') (vacant : (d'.session.slot scope)[variant]? = none) :
    (d.session.slot scope)[variant]? = none :=
  slot_eq_none_iff.mpr fun handle placed =>
    slot_eq_none_iff.mp vacant handle (loaded.placed placed).1

/-- What was found before is found still, but for the origin of an object that was made. -/
theorem Loaded.found (loaded : Loaded d d') (finds : d.Finds scope variant o) :
    ∃ origin, d'.Finds scope variant { o with origin } := by
  cases slot : (d'.session.slot scope)[variant]? with
  | some handle =>
    have now : d'.Finds scope variant (d'.session.object handle) := .inl ⟨handle, slot, rfl⟩
    obtain ⟨origin, same⟩ := finds.unique (loaded.finds now)
    exact ⟨origin, same ▸ now⟩
  | none =>
    -- the slot is free still, and the row it would be loaded from is the same
    rcases finds with ⟨handle, placed, -⟩ | ⟨-, loads⟩
    · cases placed.symm.trans (loaded.free slot)
    · have row : d'.store.row? (scope.cell variant) = d.store.row? (scope.cell variant) := by
        unfold Store.row?
        rw [loaded.rows]
      exact ⟨o.origin, .inr ⟨slot, Loads.congr loads row loaded.settings⟩⟩

/-- Where only what was read in passing differs, nothing was loaded but that. -/
theorem Alike.loaded (alike : Alike d d') : Loaded d d' where
  placed placed := ⟨alike.placed_iff.mpr placed, alike.object _⟩
  finds := alike.finds_iff.mp
  notices := alike.notices
  settings := alike.settings
  ring := alike.ring
  closed := alike.closed
  rows := alike.rows
  fault := alike.fault
  clock := alike.clock

/-- And a device stays tidy. -/
theorem Alike.tidy (alike : Alike d d') (tidy : d.Tidy) : d'.Tidy := by
  intro scope variant handle placed
  rw [alike.object, alike.objects]
  exact tidy scope variant handle (alike.placed_iff.mp placed)

/-- An object is put into a free slot. -/
theorem loaded_adopt (tidy : d.Tidy) (free : (d.session.slot scope)[variant]? = none)
    (loads : d.Loads scope variant o) : Loaded d (d.adopt scope variant o) where
  placed {other v handle} placed := by
    refine ⟨placed.adopt free o, ?_⟩
    rw [object_adopt, if_neg (Nat.ne_of_lt (tidy other v handle placed).1)]
  finds {other v p} finds := by
    -- found in a slot, which is the new one or another; or found where nothing is in the slot
    rcases finds with ⟨handle, placed, rfl⟩ | ⟨vacant, made⟩
    · rw [object_adopt]
      rw [placed_adopt] at placed
      split at placed
      · next here =>
        -- what is found in the slot is what was put there
        obtain ⟨rfl, rfl⟩ := here
        rw [if_pos placed]
        exact .inr ⟨free, loads⟩
      · rw [if_neg (Nat.ne_of_lt (tidy other v handle placed).1)]
        exact .inl ⟨handle, placed, rfl⟩
    · refine .inr ⟨slot_eq_none_iff.mpr fun handle placed => ?_, made⟩
      exact slot_eq_none_iff.mp vacant handle (placed.adopt free o)

/-- What another slot holds has nothing to do with it. -/
theorem finds_adopt_other {other : Scope} {v : Variant} {p : Object} (tidy : d.Tidy)
    (differs : ¬ (other = scope ∧ v = variant)) :
    (d.adopt scope variant o).Finds other v p ↔ d.Finds other v p := by
  have placed (handle : Handle) :
      (d.adopt scope variant o).Placed other v handle ↔ d.Placed other v handle := by
    rw [placed_adopt, if_neg differs]
  have free : ((d.adopt scope variant o).session.slot other)[v]? = none ↔
      (d.session.slot other)[v]? = none := by
    simp only [slot_eq_none_iff, placed]
  -- the slot is another one, so both what it holds and whether it is free are the same
  refine or_congr (exists_congr fun handle => ?_) (and_congr free Iff.rfl)
  rw [placed]
  refine and_congr_right fun holds => ?_
  rw [object_adopt, if_neg (Nat.ne_of_lt (tidy other v handle holds).1)]

/-- **An object was looked up**: it is in its slot, and all other objects are what they were. -/
structure Found (d : Device) (scope : Scope) (variant : Variant) (handle : Handle) (d' : Device) :
    Prop where
  placed : d'.Placed scope variant handle
  loaded : Loaded d d'
  others : ∀ {other v p}, ¬ (other = scope ∧ v = variant) →
    (d'.Finds other v p ↔ d.Finds other v p)
  removed : d'.session.removed = d.session.removed
  tidy : d'.Tidy

/-- It is the object that could be had before, but for the origin of one that was made. -/
theorem Found.object_eq (found : d.Found scope variant handle d')
    (finds : d.Finds scope variant o) :
    ∃ origin, d'.session.object handle = { o with origin } :=
  finds.unique (found.loaded.finds (.inl ⟨handle, found.placed, rfl⟩))

/-- Looking up an object makes no scope absent. -/
theorem Found.present {other : Scope} (found : d.Found scope variant handle d')
    (present : d.Present other) : d'.Present other := by
  intro group same
  obtain ⟨marks, known, lapsed⟩ := present group same
  refine ⟨marks, found.removed.trans known, ?_⟩
  unfold Device.cutoff
  rw [found.loaded.clock, found.loaded.settings]
  exact lapsed

/-- The store does not refuse the row of an object that is not in use. -/
def Gives (d : Device) (scope : Scope) (variant : Variant) : Prop :=
  (d.session.slot scope)[variant]? = none →
    ∀ past, d.store.fault past (.read (scope.cell variant)) = none

/-- A store that gives a row gives it after others were loaded. -/
theorem Gives.loaded (gives : d.Gives scope variant) (loaded : Loaded d d') :
    d'.Gives scope variant := by
  intro vacant past
  rw [loaded.fault]
  exact gives (loaded.free vacant) past

end Device

namespace SessionM

open Device

variable {d d' : Device} {scope : Scope} {variant : Variant} {handle : Handle} {o : Object}

/-- What can be loaded is loaded, if the store gives the row. -/
theorem loadObject_of_loads (gives : d.store.fault d.store.past (.read (scope.cell variant)) = none)
    (loads : d.Loads scope variant o) : ∃ p d', loadObject variant scope d = .ok p d' := by
  unfold Loads at loads
  split at loads
  · next none =>
    have read : onStore (StoreM.load StoredObject.codec .configs (scope.slotKey variant)) d =
        .ok Option.none (d.noted (.read (scope.cell variant))) :=
      onStore_load_of_free _ _ _ _ gives none
    exact ⟨_, _, bind_of_ok read⟩
  · next bytes row =>
    obtain ⟨stored, p, decoded, loaded, -⟩ := loads
    exact ⟨_, _, loadObject_of_row gives row decoded loaded⟩

/-- Objects are looked up in open sessions only. -/
theorem open_of_find (ran : find variant scope d = .ok handle d') : d.session.closed = false := by
  rcases find_cases variant scope d with
    ⟨-, -, isOpen, -⟩ | ⟨-, -, -, isOpen, -⟩ | ⟨_, _, -, failed⟩
  · exact isOpen
  · exact isOpen
  · cases ran.symm.trans failed

/-- **A lookup that succeeds.** -/
theorem found_of_ok (tidy : d.Tidy) (ran : find variant scope d = .ok handle d') :
    d.Found scope variant handle d' := by
  rcases find_cases variant scope d with ⟨i, placed, -, found⟩ |
    ⟨o, d₁, free, -, loads, alike, marks, found⟩ | ⟨error, d₁, -, failed⟩
  · -- the object was in its slot, so nothing happened
    cases ran.symm.trans found
    exact ⟨placed, (Alike.refl d).loaded, fun _ => Iff.rfl, rfl, tidy⟩
  · -- the object is put into its slot
    cases ran.symm.trans found
    have tidy₁ := alike.tidy tidy
    have free₁ : (d₁.session.slot scope)[variant]? = none := by
      rw [alike.slot]
      exact free
    have does : Does .work (fun _ => True) (find variant scope) _ :=
      does_find (by trivial) variant scope
    have chain := does.chain tidy trivial
    rw [stateAfter_of_ok found] at chain
    exact ⟨does.post tidy trivial found,
      alike.loaded.trans (loaded_adopt tidy₁ free₁ (alike.loads_iff.mpr loads)),
      fun differs => (finds_adopt_other tidy₁ differs).trans alike.finds_iff, marks,
      chain.tidy tidy⟩
  · cases ran.symm.trans failed

/-- **An object that can be had is found.** -/
theorem find_of_finds (tidy : d.Tidy) (isOpen : d.session.closed = false)
    (admitted : scope.admits variant = true) (gives : d.Gives scope variant)
    (finds : d.Finds scope variant o) :
    ∃ handle d', find variant scope d = .ok handle d' ∧ d.Found scope variant handle d' := by
  -- in its slot it is at hand; otherwise its row is read, which the store gives
  rcases finds with ⟨handle, placed, -⟩ | ⟨free, loads⟩
  · have ran := find_of_placed isOpen admitted placed
    exact ⟨handle, d, ran, found_of_ok tidy ran⟩
  · let touched := d.setSlot scope (d.session.slot scope)
    obtain ⟨p, d₁, made⟩ := loadObject_of_loads (d := touched) (gives free _)
      ((Alike.touched d scope).loads_iff.mpr loads)
    have ran := find_of_free isOpen admitted free made
    exact ⟨_, _, ran, found_of_ok tidy ran⟩

end SessionM

namespace Device

variable {d d' : Device} {scope : Scope}

/-! ### Scopes that were not removed -/

/-- The marks that a session goes by: those in memory or, as long as none were read, those of the
row. -/
def GoesBy (d : Device) (marks : RemovalMarks) : Prop :=
  match d.session.removed with
  | some known => marks = known
  | none => d.MarksStored marks

/-- The scope is the account, or a group of which no mark stands. -/
def Admits (d : Device) (scope : Scope) : Prop :=
  ∀ group, scope = .group group →
    ∃ marks, d.GoesBy marks ∧ ∀ time, marks[group]? = some time → ¬ d.cutoff ≤ time

/-- The check of a scope that was not removed passes, if rows can be read. -/
theorem checkPresent_of_admits (answers : d.store.Answers) (admits : d.Admits scope) :
    ∃ d', checkPresent scope d = .ok () d' := by
  cases scope with
  | account => exact ⟨d, rfl⟩
  | group group =>
    obtain ⟨known, goesBy, lapsed⟩ := admits group rfl
    obtain ⟨d', read⟩ : ∃ d', marks d = .ok known d' := by
      unfold GoesBy at goesBy
      split at goesBy
      · next known' read => exact ⟨d, goesBy ▸ marks_of_known read⟩
      · next unread => exact ⟨_, marks_of_stored unread (answers _ _) goesBy⟩
    exact ⟨d', checkPresent_of_lapsed read lapsed⟩

end Device

namespace Device

variable {d d' d₁ d₂ : Device} {scope : Scope} {variant : Variant} {handle : Handle} {o : Object}

/-! ### Working on an object -/

/-- **A device that is ready to work on an object**: its session is open, the scope was found
present, and the object is in its slot. -/
structure Ready (d : Device) (scope : Scope) (variant : Variant) (handle : Handle) : Prop where
  tidy : d.Tidy
  isOpen : d.session.closed = false
  present : d.Present scope
  placed : d.Placed scope variant handle

namespace Ready

/-- What no statement speaks of makes a device no less ready. -/
theorem aside (ready : d.Ready scope variant handle) (same : Aside d d') :
    d'.Ready scope variant handle where
  tidy := by
    have effect : Effect .look d d' := .aside same
    exact effect.tidy ready.tidy
  isOpen := same.closed.trans ready.isOpen
  present := by
    unfold Present Device.cutoff
    rw [same.removed, same.clock, same.settings]
    exact ready.present
  placed := same.placed_iff.mpr ready.placed

/-- Nor does writing a row. -/
theorem setRow (ready : d.Ready scope variant handle) (cell : Cell) (bytes : Bytes) :
    (d.setRow cell bytes).Ready scope variant handle :=
  ⟨ready.tidy, ready.isOpen, ready.present, ready.placed⟩

/-- An object under a handle may change, but not into that of another scope or variant. -/
theorem setObject (ready : d.Ready scope variant handle) {i : Handle} {o : Object}
    (hasVariant : o.variant = (d.session.object i).variant)
    (hasScope : o.scope = (d.session.object i).scope)
    (life : o.destroyed = (d.session.object i).destroyed) :
    (d.setObject i o).Ready scope variant handle :=
  ⟨ready.tidy.setObject hasVariant hasScope life, ready.isOpen, ready.present, ready.placed⟩

/-- The object is stored, unless the store refuses to write it. -/
theorem persistObject_eq (ready : d.Ready scope variant handle) (time : Int64) :
    persistObject handle time d =
      match d.store.fault d.store.past (.write (scope.cell variant)) with
      | none => .ok () ((d.noted (.write (scope.cell variant))).saved handle time)
      | some text => .error (.storage text) (d.noted (.write (scope.cell variant))) := by
  obtain ⟨-, -, hasScope, hasVariant, live⟩ := ready.tidy scope variant handle ready.placed
  have ran := SessionM.persistObject_eq live (hasScope.symm ▸ ready.present) time
  dsimp only at ran
  rw [hasScope, hasVariant] at ran
  exact ran

/-- Nor does storing an object. -/
theorem saved (ready : d.Ready scope variant handle) (time : Int64) :
    (d.saved handle time).Ready scope variant handle :=
  (ready.setRow _ _).setObject rfl rfl rfl

end Ready

/-- **A device got to an object**, and did no more for that than look things up. -/
structure Reaches (d : Device) (scope : Scope) (variant : Variant) (handle : Handle)
    (d' : Device) : Prop where
  ready : d'.Ready scope variant handle
  looked : ∃ d₁, checkPresent scope d = .ok () d₁ ∧ find variant scope d₁ = .ok handle d'
  finds : ∀ {o}, d'.Finds scope variant o → d.Finds scope variant o
  others : ∀ {other v p}, ¬ (other = scope ∧ v = variant) →
    (d'.Finds other v p ↔ d.Finds other v p)
  notices : d'.session.notices = d.session.notices
  ring : d'.session.ring = d.session.ring
  fault : d'.store.fault = d.store.fault
  clock : d'.clock = d.clock

/-- A check that passes and a lookup that succeeds get to the object. -/
theorem reaches_of_found (tidy : d.Tidy) (checked : checkPresent scope d = .ok () d₁)
    (ran : find variant scope d₁ = .ok handle d₂) : d.Reaches scope variant handle d₂ := by
  have alike := alike_of_checkPresent checked
  have found := found_of_ok (alike.tidy tidy) ran
  have present := found.present ((does_checkPresent scope).post tidy trivial checked)
  exact {
    ready := ⟨found.tidy, found.loaded.closed.trans (open_of_find ran), present, found.placed⟩
    looked := ⟨d₁, checked, ran⟩
    finds := fun now => alike.finds_iff.mp (found.loaded.finds now)
    others := fun differs => (found.others differs).trans alike.finds_iff
    notices := found.loaded.notices.trans alike.notices
    ring := found.loaded.ring.trans alike.ring
    fault := found.loaded.fault.trans alike.fault
    clock := found.loaded.clock.trans alike.clock }

/-- A device that is ready is there already. -/
theorem Ready.reaches (ready : d.Ready scope variant handle) :
    d.Reaches scope variant handle d := by
  obtain ⟨-, admitted, -⟩ := ready.tidy scope variant handle ready.placed
  exact ⟨ready, ⟨d, checkPresent_of_present ready.present,
    find_of_placed ready.isOpen admitted ready.placed⟩, id, fun _ => Iff.rfl, rfl, rfl, rfl, rfl⟩

/-- The object in the slot could be had before, but for the origin of one that was made. -/
theorem Reaches.object_eq (reaches : d.Reaches scope variant handle d')
    (finds : d.Finds scope variant o) :
    ∃ origin, d'.session.object handle = { o with origin } :=
  finds.unique (reaches.finds (.inl ⟨handle, reaches.ready.placed, rfl⟩))

end Device

namespace SessionM

open Device

variable {β : Type} {d d' : Device} {scope : Scope} {variant : Variant} {handle : Handle}

/-- Checks a scope, looks up an object and goes on with its handle. -/
def reach (variant : Variant) (scope : Scope) (next : Handle → SessionM β) : SessionM β := do
  checkPresent scope
  next (← find variant scope)

/-- On a device that is ready neither the check nor the lookup does anything. -/
theorem reach_of_ready (ready : d.Ready scope variant handle) (next : Handle → SessionM β) :
    reach variant scope next d = next handle d := by
  obtain ⟨-, admitted, -⟩ := ready.tidy scope variant handle ready.placed
  unfold reach
  rw [bind_of_ok (checkPresent_of_present ready.present),
    bind_of_ok (find_of_placed ready.isOpen admitted ready.placed)]

/-- To look the object up again makes no difference. -/
theorem reach_of_reaches (reaches : d.Reaches scope variant handle d')
    (next : Handle → SessionM β) :
    reach variant scope next d = reach variant scope next d' := by
  obtain ⟨d₁, checked, found⟩ := reaches.looked
  rw [reach_of_ready reaches.ready]
  unfold reach
  rw [bind_of_ok checked, bind_of_ok found]

/-- **A device gets to an object or fails**, whatever is to be done with the object. -/
theorem reach_cases (tidy : d.Tidy) (variant : Variant) (scope : Scope) :
    (∃ error d', Alike d d' ∧
      (∀ {β : Type} (next : Handle → SessionM β), reach variant scope next d = .error error d') ∧
      ¬ (d.session.closed = false ∧ d.Admits scope ∧ scope.admits variant = true ∧
        d.store.Answers ∧ ∃ o, d.Finds scope variant o)) ∨
    ∃ handle d', d.Reaches scope variant handle d' := by
  -- the check passes or fails; a lookup that fails after it lacks one of the conditions
  obtain ⟨d₁, alike, checked | ⟨error, failed⟩⟩ := checkPresent_cases scope d
  · cases ran : find variant scope d₁ with
    | ok handle d₂ => exact .inr ⟨handle, d₂, reaches_of_found tidy checked ran⟩
    | error error d₂ =>
      refine .inl ⟨error, d₂, alike.trans (alike_of_find_error ran), fun next => ?_, ?_⟩
      · exact (bind_of_ok checked).trans (bind_of_error ran)
      · rintro ⟨isOpen, -, admitted, answers, o, finds⟩
        have gives : d₁.Gives scope variant := by
          intro _ past
          rw [alike.fault]
          exact answers past _
        obtain ⟨handle, d', found, -⟩ := find_of_finds (alike.tidy tidy)
          (alike.closed.trans isOpen) admitted gives (alike.finds_iff.mpr finds)
        cases ran.symm.trans found
  · -- the check fails for a mark that stands, or as the marks cannot be read
    refine .inl ⟨error, d₁, alike, fun next => bind_of_error failed, ?_⟩
    rintro ⟨-, admits, -, answers, -⟩
    obtain ⟨d', checked⟩ := checkPresent_of_admits answers admits
    cases failed.symm.trans checked

end SessionM

end ConfigReplica
