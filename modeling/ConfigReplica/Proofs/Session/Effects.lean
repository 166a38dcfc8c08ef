import ConfigReplica.Proofs.Object.History
import ConfigReplica.Proofs.Store.Steps
import ConfigReplica.Session.Flush
import ConfigReplica.Session.Lifecycle
import ConfigReplica.Session.Lookup
import ConfigReplica.Session.Merge
import ConfigReplica.Session.Watermark
import Mathlib.Logic.Relation

/-!
# Effects

What a session does to its device comes in small **effects**: an object is put into
its slot, an object changes, a row is written, a mark is added (`Device.Effect`).
Every operation of a session is a chain of such effects, whether it fails or not,
and a failure can only cut the chain short. So what every effect keeps, every run
keeps, and statements about runs need not look at the operations again.

Effects belong to a **deed**, which says what the session was asked for as far as
it matters here (`Deed`): only the removal of a group takes the group's objects out
of their slots, and only an acknowledgement for a scope makes its objects clean.

* An effect carries what the session checked before it: an object is stored only if
  its scope was found present (`Device.Present`), and only from its slot.
* What no statement speaks of is left open (`Device.Aside`): the schedule, the random
  draws, the steps that the store took note of.

The first thing that effects keep is that a device is **tidy** (`Device.Tidy`): the
slot of a scope and variant holds a live object of that scope and variant.
-/

namespace ConfigReplica

open Config

/-! ### Slots -/

namespace Session

/-- Where a scope is pushed to depends on the keys alone. -/
theorem destinationOf_of_ring {s s' : Session} (ring : s'.ring = s.ring) (scope : Scope) :
    s'.destinationOf scope = s.destinationOf scope := by
  unfold destinationOf
  rw [ring]

variable (s : Session) (scope other : Scope) (m : Std.ExtTreeMap Variant Handle)

/-- Another slot for a scope leaves the slots of the other scopes alone. -/
@[simp] theorem slot_insert :
    slot { s with slots := s.slots.insert scope m } other =
      if other = scope then m else s.slot other := by
  simp only [slot, Std.ExtTreeMap.getD_insert, Std.compare_eq_iff_eq]
  by_cases same : other = scope
  · simp [same]
  · simp [same, Ne.symm same]

/-- Without its slot a scope has no objects, and all others keep theirs. -/
@[simp] theorem slot_erase :
    slot { s with slots := s.slots.erase scope } other =
      if other = scope then ∅ else s.slot other := by
  simp only [slot, Std.ExtTreeMap.getD_erase, Std.compare_eq_iff_eq]
  by_cases same : other = scope
  · simp [same]
  · simp [same, Ne.symm same]

/-- What stands under a handle once an object was put under one that is known. -/
theorem object_setObject (handle i : Handle) (o : Object) :
    (s.setObject handle o).object i =
      if i = handle ∧ handle < s.objects.size then o else s.object i := by
  simp only [object, setObject, Array.getElem?_setIfInBounds]
  by_cases same : handle = i
  · subst same
    by_cases known : handle < s.objects.size
    · simp [known]
    · simp [known]
  · simp [same, Ne.symm same]

/-- No handle comes or goes when an object is put under one. -/
@[simp] theorem size_setObject (handle : Handle) (o : Object) :
    (s.setObject handle o).objects.size = s.objects.size := by
  simp [setObject]

/-- The objects under some handles have ended, and nothing else became of objects and slots. -/
structure Ends (gone : Handle → Prop) (s s' : Session) : Prop where
  slots : s'.slots = s.slots
  size : s'.objects.size = s.objects.size
  ended : ∀ handle, gone handle → s'.object handle = (s.object handle).destroy
  others : ∀ handle, ¬ gone handle → s'.object handle = s.object handle

namespace Ends

variable {s s' s'' : Session} {gone gone' : Handle → Prop}

theorem refl (s : Session) : Ends (fun _ => False) s s :=
  ⟨rfl, rfl, fun _ no => no.elim, fun _ _ => rfl⟩

theorem trans (first : Ends gone s s') (second : Ends gone' s' s'') :
    Ends (fun handle => gone handle ∨ gone' handle) s s'' where
  slots := second.slots.trans first.slots
  size := second.size.trans first.size
  ended handle either := by
    -- an object that ended twice ended
    by_cases later : gone' handle
    · rw [second.ended handle later]
      by_cases sooner : gone handle
      · rw [first.ended handle sooner]
        rfl
      · rw [first.others handle sooner]
    · rw [second.others handle later, first.ended handle (either.resolve_right later)]
  others handle neither := by
    rw [second.others handle fun later => neither (.inr later),
      first.others handle fun sooner => neither (.inl sooner)]

theorem congr (ends : Ends gone s s') (same : ∀ handle, gone handle ↔ gone' handle) :
    Ends gone' s s' := by
  obtain rfl : gone = gone' := funext fun handle => propext (same handle)
  exact ends

/-- Ending the object of one handle. A number that is no handle stands for an object that has
ended. -/
theorem one (s : Session) (handle : Handle) :
    Ends (· = handle) s (s.setObject handle (s.object handle).destroy) where
  slots := rfl
  size := size_setObject _ _ _
  ended i same := by
    subst same
    rw [object_setObject]
    -- the handle is known, so its object is replaced; or it stands for one that has ended anyway
    by_cases known : i < s.objects.size
    · rw [if_pos ⟨rfl, known⟩]
    · have none : s.object i = noObject := by
        simp [object, known]
      rw [if_neg fun here => known here.2, none]
      rfl
  others i other := by
    rw [object_setObject, if_neg fun here => other here.1]

end Ends

end Session

/-- The place of the row with the removal marks. -/
def RemovalMarks.cell : Cell :=
  ⟨.accountData, key⟩

/-- The place of the row with an object. -/
def Scope.cell (scope : Scope) (variant : Variant) : Cell :=
  ⟨.configs, scope.slotKey variant⟩

/-! ### What an operation is done for -/

/-- What a session is asked to do, as far as it matters for what may become of it. -/
inductive Deed where
  /-- Looking at what is in memory. -/
  | look
  /-- Storing what is in memory. -/
  | store
  /-- Reading, editing, merging, storing and sending objects. -/
  | work
  /-- Taking note of an acknowledgement for a scope. -/
  | confirm (scope : Scope)
  /-- Checking a change against its watermark. -/
  | change
  | remove (group : GroupId)
  | rejoin (group : GroupId)
  | close
  | wipe
  deriving DecidableEq

/-- The change that a deed makes to the removal marks at a time. -/
inductive Deed.Remarks (time : Int64) : Deed → (RemovalMarks → RemovalMarks) → Prop
  | remove (group : GroupId) : Remarks time (.remove group) fun marks => marks.insert group time
  | rejoin (group : GroupId) : Remarks time (.rejoin group) fun marks => marks.erase group

namespace Deed

/-- The deeds that load objects and change them. -/
def Handles : Deed → Prop
  | .work | .confirm _ | .wipe => True
  | _ => False

/-- The deeds that store objects. -/
def Stores : Deed → Prop
  | .store | .work | .confirm _ => True
  | _ => False

/-- The deeds that take no object out of its slot. -/
def Calm : Deed → Prop
  | .remove _ | .wipe => False
  | _ => True

end Deed

namespace Config.Object

/-- How an object may change in a session: by an edit, a merge or an acknowledgement. -/
inductive Change : Deed → Object → Object → Prop
  | edit {deed : Deed} {o : Object} {α : Type} {step : EditM α} (plan : EditM.Plan step)
      (time : Int64) (entropy : Entropy) {done : Edited α}
      (ran : o.edit time entropy step = .ok done) : Change deed o done.object
  | merge {deed : Deed} {o o' : Object} {id : String} {data : Bytes} {changed : Bool}
      (accepted : o.merge id data = .ok (changed, o')) : Change deed o o'
  | confirm {o : Object} (seqno : UInt64) (hash : String) :
      Change (.confirm o.scope) o (o.confirm seqno hash)

end Config.Object

namespace Device

/-! ### Devices -/

/-- The device with another object under a handle. -/
def setObject (d : Device) (handle : Handle) (o : Object) : Device :=
  { d with session := d.session.setObject handle o }

/-- The device with these removal marks in memory. -/
def setMarks (d : Device) (marks : RemovalMarks) : Device :=
  { d with session := { d.session with removed := some marks } }

/-- The device with other handles in the slot of a scope. -/
def setSlot (d : Device) (scope : Scope) (slot : Std.ExtTreeMap Variant Handle) : Device :=
  { d with session := { d.session with slots := d.session.slots.insert scope slot } }

/-- The device with another object, in the slot of a scope and variant. -/
def adopt (d : Device) (scope : Scope) (variant : Variant) (o : Object) : Device :=
  { d with session := { d.session with
    objects := d.session.objects.push o
    slots := d.session.slots.insert scope
      ((d.session.slot scope).insert variant d.session.objects.size) } }

/-- The device once its store took note of a step. -/
def noted (d : Device) (step : Access) : Device :=
  { d with store := d.store.noted step }

/-- The device with another row in its store. -/
def setRow (d : Device) (cell : Cell) (bytes : Bytes) : Device :=
  { d with store := d.store.insert cell bytes }

/-- The device without a row in its store. -/
def eraseRow (d : Device) (cell : Cell) : Device :=
  { d with store := d.store.erase cell }

/-- The object of a scope and variant has a handle. -/
def Placed (d : Device) (scope : Scope) (variant : Variant) (handle : Handle) : Prop :=
  (d.session.slot scope)[variant]? = some handle

/-- The row of the removal marks holds these marks. -/
def MarksStored (d : Device) (marks : RemovalMarks) : Prop :=
  match d.store.row? RemovalMarks.cell with
  | none => marks = ∅
  | some bytes => RemovalMarks.codec.decode bytes = .ok marks

/-- The earliest time of a mark that still stands. -/
def cutoff (d : Device) : Int64 :=
  ConfigReplica.cutoff d.clock d.session.settings.retention

/-- The marks were read, and none that stands is for the scope. -/
def Present (d : Device) (scope : Scope) : Prop :=
  ∀ group, scope = .group group → ∃ marks, d.session.removed = some marks ∧
    ∀ time, marks[group]? = some time → ¬ d.cutoff ≤ time

/-- The object that is loaded or made for a scope and variant. -/
def Loads (d : Device) (scope : Scope) (variant : Variant) (o : Object) : Prop :=
  match d.store.row? (scope.cell variant) with
  | none => ∃ origin, o = (Object.blank variant scope origin).withMemory d.session.settings.memory
  | some bytes => ∃ stored p, StoredObject.codec.decode bytes = .ok stored ∧
      Object.load variant scope stored.dump = .ok p ∧
      o = p.withMemory d.session.settings.memory

/-- Only what no statement here speaks of differs: the random draws, the steps of the store so far,
the schedule, the notices and the watermarks in memory. -/
structure Aside (d d' : Device) : Prop where
  objects : d'.session.objects = d.session.objects := by rfl
  slots : d'.session.slots = d.session.slots := by rfl
  removed : d'.session.removed = d.session.removed := by rfl
  settings : d'.session.settings = d.session.settings := by rfl
  ring : d'.session.ring = d.session.ring := by rfl
  closed : d'.session.closed = d.session.closed := by rfl
  rows : d'.store.rows = d.store.rows := by rfl
  fault : d'.store.fault = d.store.fault := by rfl
  clock : d'.clock = d.clock := by rfl

namespace Aside

variable {d d' : Device}

/-- What the store takes note of is no part of what is spoken of. -/
theorem noted (d : Device) (step : Access) : Aside d (d.noted step) where

/-- The same objects stand under the handles. -/
theorem object (same : Aside d d') (handle : Handle) :
    d'.session.object handle = d.session.object handle := by
  unfold Session.object
  rw [same.objects]

/-- The same handles are in the slots. -/
theorem placed_iff (same : Aside d d') {scope : Scope} {variant : Variant} {handle : Handle} :
    d'.Placed scope variant handle ↔ d.Placed scope variant handle := by
  unfold Placed Session.slot
  rw [same.slots]

end Aside

/-- **One effect** of a deed. -/
inductive Effect : Deed → Device → Device → Prop
  | aside {deed : Deed} {d d' : Device} (same : Aside d d') : Effect deed d d'
  /-- The marks are read. -/
  | recalled {deed : Deed} {d : Device} {marks : RemovalMarks}
      (unread : d.session.removed = none) (stored : d.MarksStored marks) :
      Effect deed d (d.setMarks marks)
  /-- The marks are changed, and those that lapsed are dropped. -/
  | remarked {deed : Deed} {d : Device} {marks : RemovalMarks}
      {f : RemovalMarks → RemovalMarks} (change : deed.Remarks d.clock f)
      (known : d.session.removed = some marks) :
      Effect deed d (d.setMarks ((f marks).filter fun _ time => d.cutoff ≤ time))
  /-- The marks are stored. -/
  | markSaved {deed : Deed} {d : Device} {marks : RemovalMarks}
      {f : RemovalMarks → RemovalMarks} (change : deed.Remarks d.clock f)
      (known : d.session.removed = some marks) :
      Effect deed d (d.setRow RemovalMarks.cell (RemovalMarks.codec.write marks))
  /-- Watermarks are stored. -/
  | watermarkSaved {d : Device} (variant : Variant) (bytes : Bytes) :
      Effect .change d (d.setRow ⟨.changeWatermarks, variant.name⟩ bytes)
  /-- A scope is looked at. -/
  | touched {deed : Deed} {d : Device} (handles : deed.Handles) (scope : Scope)
      (isOpen : d.session.closed = false) :
      Effect deed d (d.setSlot scope (d.session.slot scope))
  /-- An object is put into its slot. -/
  | adopted {deed : Deed} {d : Device} {scope : Scope} {variant : Variant} {o : Object}
      (handles : deed.Handles) (isOpen : d.session.closed = false)
      (admitted : scope.admits variant = true)
      (free : (d.session.slot scope)[variant]? = none) (loads : d.Loads scope variant o) :
      Effect deed d (d.adopt scope variant o)
  /-- An object changes in memory. -/
  | changed {deed : Deed} {d : Device} {handle : Handle} {o : Object} (handles : deed.Handles)
      (change : Object.Change deed (d.session.object handle) o) :
      Effect deed d (d.setObject handle o)
  /-- An object is stored. -/
  | stored {deed : Deed} {d : Device} {scope : Scope} {variant : Variant} {handle : Handle}
      {o : Object} (stores : deed.Stores) (object : d.session.object handle = o)
      (placed : d.Placed scope variant handle) (time : Int64) (live : o.destroyed = false)
      (present : d.Present o.scope) :
      Effect deed d ((d.setRow (o.scope.cell o.variant)
        (StoredObject.codec.write { time, dump := o.dump })).setObject handle o.markDumped)
  /-- The objects of a group are taken out of their slots. -/
  | evicted {d : Device} (group : GroupId) :
      Effect (.remove group) d { d with session := { d.session with
        slots := d.session.slots.erase (.group group) } }
  /-- An object that is in no slot is ended. -/
  | destroyed {d : Device} {group : GroupId} {handle : Handle}
      (loose : ∀ scope variant, ¬ d.Placed scope variant handle) :
      Effect (.remove group) d (d.setObject handle (d.session.object handle).destroy)
  /-- The row of an object that is not in use is deleted. -/
  | rowDeleted {deed : Deed} {d : Device} {scope : Scope} (variant : Variant)
      (mine : deed = .wipe ∨ ∃ group, deed = .remove group ∧ scope = .group group)
      (vacant : ∀ handle, ¬ d.Placed scope variant handle) :
      Effect deed d (d.eraseRow (scope.cell variant))
  /-- The session ends. -/
  | closed {deed : Deed} {d : Device} (mine : deed = .close ∨ deed = .wipe) :
      Effect deed d { d with session := { d.session with closed := true } }
  /-- All slots are emptied, and the objects that were in them ended. -/
  | cleared {d : Device} (objects : Array Object)
      (ends : Session.Ends (· ∈ d.session.handles) d.session { d.session with objects }) :
      Effect .wipe d { d with session := { d.session with objects, slots := ∅ } }
  /-- A row of another table is deleted. -/
  | otherDeleted {d : Device} {cell : Cell} (other : cell.table ≠ .configs) :
      Effect .wipe d (d.eraseRow cell)
  /-- The marks are forgotten. -/
  | forgot {d : Device} : Effect .wipe d (d.setMarks ∅)

/-- A chain of effects of one deed. -/
abbrev Chain (deed : Deed) : Device → Device → Prop :=
  Relation.ReflTransGen (Effect deed)

/-- **A session is tidy**: what is in the slot of a scope and variant is an object of that scope and
variant, and not ended. -/
def Tidy (d : Device) : Prop :=
  ∀ scope variant handle, d.Placed scope variant handle →
    handle < d.session.objects.size ∧ scope.admits variant = true ∧
    (d.session.object handle).scope = scope ∧ (d.session.object handle).variant = variant ∧
    (d.session.object handle).destroyed = false

end Device

namespace Config.Object

/-- Whatever an object goes through in a session, it stays the object of its scope and variant. -/
theorem Change.keeps {deed : Deed} {o o' : Object} (change : Change deed o o') :
    o'.variant = o.variant ∧ o'.scope = o.scope ∧ o'.origin = o.origin ∧
      o'.memory = o.memory ∧ o'.destroyed = o.destroyed := by
  cases change with
  -- an edit writes the state, the number and the two marks
  | edit plan time entropy ran =>
    rw [edit_cases ran]
    unfold revise
    split <;> exact ⟨rfl, rfl, rfl, rfl, rfl⟩
  -- a merge writes the state, what is remembered, and one mark
  | merge accepted =>
    rcases merge_cases accepted with ⟨-, rfl⟩ | ⟨s, -, rfl⟩ <;> exact ⟨rfl, rfl, rfl, rfl, rfl⟩
  | confirm seqno hash =>
    unfold Object.confirm
    split <;> exact ⟨rfl, rfl, rfl, rfl, rfl⟩

end Config.Object

namespace Device

variable {deed : Deed} {d d' : Device}

section Updates

variable (d : Device) (handle i : Handle) (o : Object) (scope other : Scope)
  (slot : Std.ExtTreeMap Variant Handle) (cell place : Cell) (bytes : Bytes)

/-- The slot of one scope was changed. -/
@[simp] theorem slot_setSlot :
    (d.setSlot scope slot).session.slot other =
      if other = scope then slot else d.session.slot other :=
  Session.slot_insert _ _ _ _

/-- The row of one cell was written. -/
@[simp] theorem row?_setRow :
    (d.setRow cell bytes).store.row? place =
      if place = cell then some bytes else d.store.row? place :=
  Store.row?_insert _ _ _ _

/-- The row of one cell was deleted. -/
@[simp] theorem row?_eraseRow :
    (d.eraseRow cell).store.row? place = if place = cell then none else d.store.row? place :=
  Store.row?_erase _ _ _

/-- What stands under a handle once an object was put under another, or under this one. -/
theorem object_setObject :
    (d.setObject handle o).session.object i =
      if i = handle ∧ handle < d.session.objects.size then o else d.session.object i :=
  Session.object_setObject _ _ _ _

/-- Putting an object under a handle makes no new handle. -/
@[simp] theorem size_setObject :
    (d.setObject handle o).session.objects.size = d.session.objects.size :=
  Session.size_setObject _ _ _

end Updates

/-- Looking at a scope puts nothing into its slot. -/
@[simp] theorem placed_touch (d : Device) (scope other : Scope) (variant : Variant)
    (handle : Handle) :
    (d.setSlot scope (d.session.slot scope)).Placed other variant handle ↔
      d.Placed other variant handle := by
  unfold Placed
  rw [slot_setSlot]
  split
  · next same => rw [same]
  · rfl

/-- Taking a group's objects out of their slots puts none into one. -/
theorem placed_of_evicted {d : Device} {scope other : Scope} {variant : Variant} {handle : Handle}
    (placed : Placed { d with session := { d.session with
      slots := d.session.slots.erase scope } } other variant handle) :
    d.Placed other variant handle := by
  unfold Placed at placed
  rw [Session.slot_erase] at placed
  split at placed
  · exact absurd placed (by simp)
  · exact placed

section Adopt

variable (d : Device) (scope other : Scope) (variant v : Variant) (handle : Handle) (o : Object)

/-- A new object makes one new handle. -/
@[simp] theorem size_adopt :
    (d.adopt scope variant o).session.objects.size = d.session.objects.size + 1 :=
  Array.size_push _

/-- The new handle stands for the new object, and all others stand for what they stood for. -/
@[simp] theorem object_adopt :
    (d.adopt scope variant o).session.object handle =
      if handle = d.session.objects.size then o else d.session.object handle := by
  simp only [adopt, Session.object, Array.getElem?_push]
  split <;> rfl

/-- Only the new object is placed anew. -/
theorem placed_adopt :
    (d.adopt scope variant o).Placed other v handle ↔
      if other = scope ∧ v = variant then handle = d.session.objects.size
      else d.Placed other v handle := by
  change ((d.setSlot scope _).session.slot other)[v]? = some handle ↔ _
  rw [slot_setSlot]
  -- another scope has another slot, and another variant another place in it
  by_cases here : other = scope
  · subst here
    rw [if_pos rfl, Std.ExtTreeMap.getElem?_insert]
    by_cases same : v = variant
    · simp [same, eq_comm]
    · simp [same, Ne.symm same, Placed]
  · simp [here, Placed]

/-- An object goes to a slot that is free. -/
theorem Placed.adopt {d : Device} {scope other : Scope} {variant v : Variant} {handle : Handle}
    (placed : d.Placed other v handle) (free : (d.session.slot scope)[variant]? = none)
    (o : Object) : (d.adopt scope variant o).Placed other v handle := by
  refine (placed_adopt ..).mpr ?_
  split
  · -- the place that was free is the one that was taken
    next here =>
    rw [Placed, here.1, here.2, free] at placed
    cases placed
  · exact placed

end Adopt

/-- An object that is placed keeps its place, unless the deed empties slots. -/
theorem Effect.placed (effect : Effect deed d d') (calm : deed.Calm) {scope : Scope}
    {variant : Variant} {handle : Handle} (placed : d.Placed scope variant handle) :
    d'.Placed scope variant handle := by
  -- only removals and wipes take something out of a slot
  cases effect with
  | aside same => exact same.placed_iff.mpr placed
  | touched handles other isOpen => exact (placed_touch _ _ _ _ _).mpr placed
  | adopted handles isOpen admitted free loads => exact placed.adopt free _
  | evicted group => exact calm.elim
  | cleared objects => exact calm.elim
  | _ => exact placed

/-- Putting an object of the same scope and variant under a handle keeps a device tidy. -/
theorem Tidy.setObject (tidy : Tidy d) {handle : Handle} {o : Object}
    (variant : o.variant = (d.session.object handle).variant)
    (scope : o.scope = (d.session.object handle).scope)
    (destroyed : o.destroyed = (d.session.object handle).destroyed) :
    Tidy (d.setObject handle o) := by
  intro other v i placed
  obtain ⟨known, admitted, hasScope, hasVariant, live⟩ := tidy other v i placed
  rw [size_setObject, object_setObject]
  split
  · -- the object is in one slot only, and has the same scope and variant as before
    next here =>
    obtain ⟨rfl, -⟩ := here
    exact ⟨known, admitted, scope.trans hasScope, variant.trans hasVariant, destroyed.trans live⟩
  · exact ⟨known, admitted, hasScope, hasVariant, live⟩

/-- What is loaded is a live object of its scope and variant. -/
theorem Loads.fits {scope : Scope} {variant : Variant} {o : Object}
    (loads : d.Loads scope variant o) :
    o.variant = variant ∧ o.scope = scope ∧ o.destroyed = false := by
  unfold Loads at loads
  split at loads
  · obtain ⟨origin, rfl⟩ := loads
    exact ⟨rfl, rfl, rfl⟩
  · -- of the ways to load a dump only the last one succeeds
    obtain ⟨stored, p, -, loaded, rfl⟩ := loads
    unfold Object.load at loaded
    split at loaded
    · exact absurd loaded (by simp)
    · split at loaded
      · exact absurd loaded (by simp)
      · split at loaded
        · exact absurd loaded (by simp)
        · obtain rfl := Except.ok.inj loaded
          exact ⟨rfl, rfl, rfl⟩

/-- **Every effect keeps a device tidy.** -/
theorem Effect.tidy (effect : Effect deed d d') (tidy : Tidy d) : Tidy d' := by
  cases effect with
  | aside same =>
    intro scope variant handle placed
    rw [same.object, same.objects]
    exact tidy scope variant handle (same.placed_iff.mp placed)
  | touched handles other isOpen =>
    intro scope variant handle placed
    exact tidy scope variant handle ((placed_touch _ _ _ _ _).mp placed)
  | @adopted _ _ scope variant o handles isOpen admitted free loads =>
    -- the new object has a new handle, and all others keep theirs
    intro other v handle placed
    rw [size_adopt, object_adopt]
    rw [placed_adopt] at placed
    split at placed
    · -- what is in the slot of the new object is the new object
      next here =>
      obtain ⟨rfl, rfl⟩ := here
      obtain ⟨hasVariant, hasScope, live⟩ := loads.fits
      rw [if_pos placed]
      exact ⟨placed ▸ Nat.lt_succ_self _, admitted, hasScope, hasVariant, live⟩
    · obtain ⟨known, fits⟩ := tidy other v handle placed
      rw [if_neg (Nat.ne_of_lt known)]
      exact ⟨Nat.lt_succ_of_lt known, fits⟩
  | changed handles change =>
    obtain ⟨variant, scope, -, -, destroyed⟩ := change.keeps
    exact tidy.setObject variant scope destroyed
  | stored stores object placed time live present =>
    subst object
    exact Tidy.setObject (d := d.setRow _ _) tidy rfl rfl rfl
  -- fewer handles are in slots than before
  | evicted group =>
    intro scope variant handle placed
    exact tidy scope variant handle (placed_of_evicted placed)
  | @destroyed _ group i loose =>
    -- only an object that is in no slot is ended
    intro scope variant handle placed
    have other : handle ≠ i := by
      rintro rfl
      exact loose scope variant placed
    rw [size_setObject, object_setObject, if_neg fun here => other here.1]
    exact tidy scope variant handle placed
  -- no handle is in a slot
  | cleared objects =>
    intro scope variant handle placed
    simp [Placed, Session.slot] at placed
  | _ => exact tidy

/-- No effect changes the clock, the settings, or what the store will refuse. -/
theorem Effect.steady (effect : Effect deed d d') :
    d'.clock = d.clock ∧ d'.session.settings = d.session.settings ∧
      d'.session.ring = d.session.ring ∧ d'.store.fault = d.store.fault := by
  -- each effect is an update of a device in which these four do not occur
  cases effect with
  | aside same => exact ⟨same.clock, same.settings, same.ring, same.fault⟩
  | _ => exact ⟨rfl, rfl, rfl, rfl⟩

/-- The marks lapse at the same times, whatever is done. -/
theorem Effect.cutoff_eq (effect : Effect deed d d') : d'.cutoff = d.cutoff := by
  unfold Device.cutoff
  rw [effect.steady.1, effect.steady.2.1]

/-- The device once an object is stored. -/
def saved (d : Device) (handle : Handle) (time : Int64) : Device :=
  let o := d.session.object handle
  (d.setRow (o.scope.cell o.variant)
    (StoredObject.codec.write { time, dump := o.dump })).setObject handle o.markDumped

/-- The row of the object that was stored is written, and no other. -/
theorem row?_saved (d : Device) (handle : Handle) (time : Int64) (cell : Cell) :
    (d.saved handle time).store.row? cell =
      if cell = (d.session.object handle).scope.cell (d.session.object handle).variant
        then some (StoredObject.codec.write { time, dump := (d.session.object handle).dump })
        else d.store.row? cell :=
  row?_setRow _ _ _ _

/-- The object that was stored lost its mark, and no other object changed. -/
theorem object_saved {d : Device} {handle : Handle} (known : handle < d.session.objects.size)
    (time : Int64) (i : Handle) :
    (d.saved handle time).session.object i =
      if i = handle then (d.session.object handle).markDumped else d.session.object i := by
  unfold saved
  rw [object_setObject]
  by_cases same : i = handle
  · rw [if_pos same, if_pos ⟨same, known⟩]
  · rw [if_neg same, if_neg fun here => same here.1]
    rfl

/-- **What looking and storing can do**: read the marks, or store an object. -/
theorem Effect.quiet_cases (effect : Effect deed d d') (quiet : deed = .look ∨ deed = .store) :
    Aside d d' ∨
    (∃ marks, d.session.removed = none ∧ d.MarksStored marks ∧ d' = d.setMarks marks) ∨
    ∃ scope variant handle time, deed.Stores ∧ d.Placed scope variant handle ∧
      d' = d.saved handle time := by
  -- the other effects need a deed that loads objects, changes marks, or ends something
  have handles : ¬ deed.Handles := by rcases quiet with rfl | rfl <;> exact id
  have remarks {time : Int64} {f : RemovalMarks → RemovalMarks} : ¬ deed.Remarks time f := by
    rcases quiet with rfl | rfl <;> exact nofun
  cases effect with
  | aside same => exact .inl same
  | recalled unread stored => exact .inr (.inl ⟨_, unread, stored, rfl⟩)
  | stored stores object placed time live present =>
    subst object
    exact .inr (.inr ⟨_, _, _, time, stores, placed, rfl⟩)
  | touched loads => exact absurd loads handles
  | adopted loads => exact absurd loads handles
  | changed loads => exact absurd loads handles
  | remarked change => exact absurd change remarks
  | markSaved change => exact absurd change remarks
  | rowDeleted variant mine => rcases mine with rfl | ⟨_, rfl, -⟩ <;> simp at quiet
  | closed mine => rcases mine with rfl | rfl <;> simp at quiet
  | _ => simp at quiet

/-- What looking can do, every deed can do. -/
theorem Effect.of_look (effect : Effect .look d d') : Effect deed d d' := by
  rcases effect.quiet_cases (.inl rfl) with same | ⟨marks, unread, stored, rfl⟩ |
    ⟨_, _, _, _, stores, -⟩
  · exact .aside same
  · exact .recalled unread stored
  · exact stores.elim

/-- Looking leaves the objects, their slots and all rows as they are. -/
theorem Effect.looked (effect : Effect .look d d') :
    d'.session.objects = d.session.objects ∧ d'.session.slots = d.session.slots ∧
      d'.session.closed = d.session.closed ∧ d'.store.rows = d.store.rows := by
  rcases effect.quiet_cases (.inl rfl) with same | ⟨marks, unread, stored, rfl⟩ |
    ⟨_, _, _, _, stores, -⟩
  · exact ⟨same.objects, same.slots, same.closed, same.rows⟩
  · exact ⟨rfl, rfl, rfl, rfl⟩
  · exact stores.elim

/-- Storing moves no object, and changes no more of one than its mark, which it takes off. -/
theorem Effect.stored_only (effect : Effect .store d d') :
    d'.session.slots = d.session.slots ∧ ∀ handle,
      (d'.session.object handle).markDumped = (d.session.object handle).markDumped ∧
      ((d.session.object handle).needsDump = false →
        (d'.session.object handle).needsDump = false) := by
  rcases effect.quiet_cases (.inr rfl) with same | ⟨marks, unread, stored, rfl⟩ |
    ⟨_, _, i, time, -, -, rfl⟩
  · -- nothing of an object is touched
    refine ⟨same.slots, fun handle => ?_⟩
    rw [same.object]
    exact ⟨rfl, id⟩
  · exact ⟨rfl, fun handle => ⟨rfl, id⟩⟩
  · -- one object is stored: what it loses is the mark
    refine ⟨rfl, fun handle => ?_⟩
    unfold saved
    rw [object_setObject]
    split
    · next here =>
      rw [here.1]
      exact ⟨rfl, fun _ => rfl⟩
    · exact ⟨rfl, id⟩

/-- The rows that an effect of a deed writes. -/
inductive Writes : Deed → Device → Cell → Bytes → Prop
  | marks {deed : Deed} {d : Device} {marks : RemovalMarks} {f : RemovalMarks → RemovalMarks}
      (change : deed.Remarks d.clock f) (known : d.session.removed = some marks) :
      Writes deed d RemovalMarks.cell (RemovalMarks.codec.write marks)
  | watermarks {d : Device} (variant : Variant) (bytes : Bytes) :
      Writes .change d ⟨.changeWatermarks, variant.name⟩ bytes
  | object {deed : Deed} {d : Device} {scope : Scope} {variant : Variant} {handle : Handle}
      {o : Object} (stores : deed.Stores) (object : d.session.object handle = o)
      (placed : d.Placed scope variant handle) (time : Int64) (present : d.Present o.scope) :
      Writes deed d (o.scope.cell o.variant) (StoredObject.codec.write { time, dump := o.dump })

/-- **Where rows come from**: what is in a row was there before, or was written. -/
theorem Effect.row_cases (effect : Effect deed d d') {cell : Cell} {bytes : Bytes}
    (row : d'.store.row? cell = some bytes) :
    d.store.row? cell = some bytes ∨ Writes deed d cell bytes := by
  -- a row that is set is the one in question or another one
  have set {place : Cell} {written : Bytes} (writes : Writes deed d place written)
      (row : (d.setRow place written).store.row? cell = some bytes) :
      d.store.row? cell = some bytes ∨ Writes deed d cell bytes := by
    rw [row?_setRow] at row
    split at row
    · next here =>
      obtain rfl := Option.some.inj row
      exact .inr (here ▸ writes)
    · exact .inl row
  have erased {place : Cell} (row : (d.eraseRow place).store.row? cell = some bytes) :
      d.store.row? cell = some bytes := by
    rw [row?_eraseRow] at row
    split at row
    · cases row
    · exact row
  cases effect with
  | aside same =>
    unfold Store.row? at row ⊢
    rw [same.rows] at row
    exact .inl row
  | markSaved change known => exact set (.marks change known) row
  | watermarkSaved variant written => exact set (.watermarks variant written) row
  | stored stores object placed time live present =>
    exact set (.object stores object placed time present) row
  | rowDeleted variant mine vacant => exact .inl (erased row)
  | otherDeleted other => exact .inl (erased row)
  | _ => exact .inl row

/-- What every effect of a deed keeps, a chain of them keeps. -/
theorem Chain.keeps {holds : Device → Prop} (chain : Chain deed d d')
    (keeps : ∀ {d d'}, Effect deed d d' → holds d → holds d') (start : holds d) : holds d' := by
  induction chain with
  | refl => exact start
  | tail past effect ih => exact keeps effect ih

/-- A chain of effects keeps a device tidy. -/
theorem Chain.tidy (chain : Chain deed d d') (tidy : Tidy d) : Tidy d' :=
  chain.keeps Effect.tidy tidy

end Device

end ConfigReplica
