import ConfigReplica.Proofs.Session.Actions

/-!
# Outcomes

What it comes to, exactly, to read the removal marks, to check a scope, to look up an object and to
store one: with which results these succeed, and what they leave behind when they fail. What is only
read in passing makes no difference to what else a session does (`Device.Alike`).
-/

namespace ConfigReplica

open Config

namespace Device

/-- Only what was read in passing differs: the marks, the steps of the store so far, the random
draws, and which scopes were looked at. -/
structure Alike (d d' : Device) : Prop where
  objects : d'.session.objects = d.session.objects := by rfl
  slot : ∀ scope, d'.session.slot scope = d.session.slot scope := by exact fun _ => rfl
  notices : d'.session.notices = d.session.notices := by rfl
  settings : d'.session.settings = d.session.settings := by rfl
  ring : d'.session.ring = d.session.ring := by rfl
  closed : d'.session.closed = d.session.closed := by rfl
  rows : d'.store.rows = d.store.rows := by rfl
  fault : d'.store.fault = d.store.fault := by rfl
  clock : d'.clock = d.clock := by rfl

namespace Alike

variable {d d' d'' : Device} {scope : Scope} {variant : Variant} {handle : Handle} {o : Object}

theorem refl (d : Device) : Alike d d where

theorem trans (first : Alike d d') (second : Alike d' d'') : Alike d d'' where
  objects := second.objects.trans first.objects
  slot scope := (second.slot scope).trans (first.slot scope)
  notices := second.notices.trans first.notices
  settings := second.settings.trans first.settings
  ring := second.ring.trans first.ring
  closed := second.closed.trans first.closed
  rows := second.rows.trans first.rows
  fault := second.fault.trans first.fault
  clock := second.clock.trans first.clock

/-- The marks lapse at the same times. -/
theorem cutoff_eq (alike : Alike d d') : d'.cutoff = d.cutoff := by
  unfold Device.cutoff
  rw [alike.clock, alike.settings]

/-- The same objects stand under the handles. -/
theorem object (alike : Alike d d') (handle : Handle) :
    d'.session.object handle = d.session.object handle := by
  unfold Session.object
  rw [alike.objects]

/-- The same handles are in the slots. -/
theorem placed_iff (alike : Alike d d') :
    d'.Placed scope variant handle ↔ d.Placed scope variant handle := by
  unfold Placed
  rw [alike.slot]

/-- The same object is loaded. -/
theorem loads_iff (alike : Alike d d') : d'.Loads scope variant o ↔ d.Loads scope variant o := by
  unfold Loads Store.row?
  rw [alike.rows, alike.settings]

/-- Looking at a scope puts an empty slot where there was none. -/
theorem touched (d : Device) (scope : Scope) :
    Alike d (d.setSlot scope (d.session.slot scope)) where
  slot other := by
    rw [slot_setSlot]
    split
    · next same => rw [same]
    · rfl

end Alike

end Device

namespace SessionM

open Device

variable {d d' : Device} {scope : Scope} {variant : Variant} {handle : Handle}

/-! ### Marks and checks -/

/-- **Reading the marks.** -/
theorem marks_cases (d : Device) :
    ∃ d', Alike d d' ∧ ((∃ known, marks d = .ok known d') ∨
      ∃ error, marks d = .error error d' ∧
        d'.store.past.head? = some (.read RemovalMarks.cell)) := by
  unfold marks
  rw [bind_of_ok (session_eq d)]
  cases d.session.removed with
  -- marks in memory are given at once, without a step on the store
  | some known => exact ⟨d, .refl d, .inl ⟨known, rfl⟩⟩
  | none =>
    -- others are read, and then kept in memory
    let read := d.noted (.read RemovalMarks.cell)
    rcases onStore_load_cases RemovalMarks.codec .accountData RemovalMarks.key d with
      ⟨value, ran, -⟩ | ⟨error, failed⟩
    · exact ⟨read.setMarks (value.getD ∅), {}, .inl ⟨value.getD ∅, bind_of_ok ran⟩⟩
    · exact ⟨read, {}, .inr ⟨error, bind_of_error failed, rfl⟩⟩

/-- Reading marks that are in the row only, if the store gives it. -/
theorem marks_of_stored {stored : RemovalMarks} (unread : d.session.removed = none)
    (gives : d.store.fault d.store.past (.read RemovalMarks.cell) = none)
    (row : d.MarksStored stored) :
    marks d = .ok stored ((d.noted (.read RemovalMarks.cell)).setMarks stored) := by
  unfold MarksStored at row
  unfold marks
  rw [bind_of_ok (session_eq d), unread]
  split at row
  · -- without a row there are no marks
    next none =>
    subst row
    exact bind_of_ok (onStore_load_of_free RemovalMarks.codec _ _ d gives none)
  · next bytes some =>
    exact bind_of_ok (onStore_load_of_row RemovalMarks.codec _ _ d gives some row)

/-- **The marks are those in memory**, or those in the row where none are in memory yet. -/
theorem marks_eq_ok_iff {known : RemovalMarks} :
    marks d = .ok known d' ↔
      d.session.removed = some known ∧ d' = d ∨
      d.session.removed = none ∧
        d.store.fault d.store.past (.read RemovalMarks.cell) = none ∧ d.MarksStored known ∧
        d' = (d.noted (.read RemovalMarks.cell)).setMarks known := by
  constructor
  · intro ran
    -- what is in memory is the answer, and nothing else happens
    cases read : d.session.removed with
    | some kept =>
      cases (marks_of_known read).symm.trans ran
      exact .inl ⟨rfl, rfl⟩
    | none =>
      unfold marks at ran
      rw [bind_of_ok (session_eq d), read] at ran
      -- nothing is in memory, so the answer is what the store gives; it cannot have refused
      cases fault : d.store.fault d.store.past (.read RemovalMarks.cell) with
      | some text =>
        have failed := onStore_load_of_fault RemovalMarks.codec _ _ d fault
        cases (bind_of_error failed).symm.trans ran
      | none =>
        rcases onStore_load_cases RemovalMarks.codec .accountData RemovalMarks.key d with
          ⟨value, loaded, row⟩ | ⟨error, failed⟩
        · cases (bind_of_ok loaded).symm.trans ran
          exact .inr ⟨rfl, rfl, marksStored_of_loaded row, rfl⟩
        · cases (bind_of_error failed).symm.trans ran
  · rintro (⟨read, rfl⟩ | ⟨unread, gives, row, rfl⟩)
    · exact marks_of_known read
    · exact marks_of_stored unread gives row

/-- Only what is read in passing differs once the marks are read. -/
theorem alike_of_marks {known : RemovalMarks} (read : marks d = .ok known d') : Alike d d' := by
  rcases marks_eq_ok_iff.mp read with ⟨-, rfl⟩ | ⟨-, -, -, rfl⟩
  · exact .refl _
  · exact {}

/-- **Changing the marks.** They are changed in memory, whether they can be saved then or not. -/
theorem updateMarks_of_marks {known : RemovalMarks} (read : marks d = .ok known d')
    (f : RemovalMarks → RemovalMarks) :
    updateMarks f d =
      let after := (f known).filter fun _ time => d.cutoff ≤ time
      let changed := (d'.setMarks after).noted (.write RemovalMarks.cell)
      match d'.store.fault d'.store.past (.write RemovalMarks.cell) with
      | none => .ok () (changed.setRow RemovalMarks.cell (RemovalMarks.codec.write after))
      | some text => .error (.storage text) changed := by
  -- the cutoff is asked for after the marks were read, which makes no difference
  have sees : markCutoff d' = .ok d.cutoff d' :=
    congrArg (EStateM.Result.ok · d') (alike_of_marks read).cutoff_eq
  unfold updateMarks
  rw [bind_of_ok read, bind_of_ok sees]
  exact onStore_put .accountData RemovalMarks.key _ (d'.setMarks _)

/-- **Checking a scope.** -/
theorem checkPresent_cases (scope : Scope) (d : Device) :
    ∃ d', Alike d d' ∧
      (checkPresent scope d = .ok () d' ∨ ∃ error, checkPresent scope d = .error error d') := by
  cases scope with
  | account => exact ⟨d, .refl d, .inl rfl⟩
  | group group =>
    -- for a group the marks decide, if they can be read
    obtain ⟨d', alike, ⟨known, read⟩ | ⟨error, failed, -⟩⟩ := marks_cases d
    · refine ⟨d', alike, ?_⟩
      rw [checkPresent_of_marks read]
      split
      · exact .inr ⟨_, rfl⟩
      · exact .inl rfl
    · exact ⟨d', alike, .inr ⟨error, checkPresent_of_unread failed group⟩⟩

/-- Only what is read in passing differs once a check has passed. -/
theorem alike_of_checkPresent (checked : checkPresent scope d = .ok () d') : Alike d d' := by
  obtain ⟨d₁, alike, ran | ⟨error, failed⟩⟩ := checkPresent_cases scope d
  · cases checked.symm.trans ran
    exact alike
  · cases checked.symm.trans failed

/-- The check of a group passes if no mark of it stands. -/
theorem checkPresent_of_lapsed {known : RemovalMarks} {group : GroupId}
    (read : marks d = .ok known d')
    (lapsed : ∀ time, known[group]? = some time → ¬ d.cutoff ≤ time) :
    checkPresent (.group group) d = .ok () d' := by
  rw [checkPresent_of_marks read, if_neg]
  cases mark : known[group]? with
  | none => simp
  | some time => simpa using lapsed time mark

/-- The check of a scope that was found present passes, and reads nothing. -/
theorem checkPresent_of_present (present : d.Present scope) :
    checkPresent scope d = .ok () d := by
  cases scope with
  | account => rfl
  | group group =>
    obtain ⟨known, read, lapsed⟩ := present group rfl
    exact checkPresent_of_lapsed (marks_of_known read) lapsed

/-! ### Objects -/

/-- **Loading an object.** -/
theorem loadObject_cases (variant : Variant) (scope : Scope) (d : Device) :
    ∃ d', Alike d d' ∧ d'.session.removed = d.session.removed ∧
      ((∃ o, loadObject variant scope d = .ok o d' ∧ d.Loads scope variant o) ∨
        ∃ error, loadObject variant scope d = .error error d') := by
  let read := d.noted (.read (scope.cell variant))
  unfold loadObject
  rcases onStore_load_cases StoredObject.codec .configs (scope.slotKey variant) d with
    ⟨value, ran, row⟩ | ⟨error, failed⟩
  · rw [bind_of_ok ran]
    cases value with
    | none =>
      -- there is no row, so the object is a new one
      refine ⟨{ read with entropy := d.entropy.word.2 }, {}, rfl, .inl ⟨_, rfl, ?_⟩⟩
      unfold Loads Scope.cell
      split
      · exact ⟨d.entropy.word.1, rfl⟩
      · next bytes some =>
        rw [some] at row
        obtain ⟨_, -, none⟩ := row
        cases none
    -- the row was decoded, and now the dump in it has to load
    | some stored =>
      refine ⟨read, {}, rfl, ?_⟩
      cases loaded : Object.load variant scope stored.dump with
      | error error => exact .inr ⟨error, by dsimp only; rw [loaded]; rfl⟩
      | ok o =>
        refine .inl ⟨o.withMemory d.session.settings.memory, by dsimp only; rw [loaded]; rfl, ?_⟩
        unfold Loads Scope.cell
        split
        · next none =>
          rw [none] at row
          cases row
        · next bytes some =>
          rw [some] at row
          obtain ⟨x, decoded, ⟨rfl⟩⟩ := row
          exact ⟨stored, o, decoded, loaded, rfl⟩
  · exact ⟨read, {}, rfl, .inr ⟨error, bind_of_error failed⟩⟩

/-- **Looking up an object**: it is in its slot, or is loaded and put there, or the lookup fails. -/
theorem find_cases (variant : Variant) (scope : Scope) (d : Device) :
    (∃ handle, d.Placed scope variant handle ∧ d.session.closed = false ∧
      find variant scope d = .ok handle d) ∨
    (∃ o d', (d.session.slot scope)[variant]? = none ∧ d.session.closed = false ∧
      d.Loads scope variant o ∧ Alike d d' ∧ d'.session.removed = d.session.removed ∧
      find variant scope d = .ok d'.session.objects.size (d'.adopt scope variant o)) ∨
    ∃ error d', Alike d d' ∧ find variant scope d = .error error d' := by
  unfold find
  -- a closed session refuses; an open one checks the variant next
  cases ended : d.session.closed with
  | true =>
    have refused : checkOpen d = .error .sessionClosed d := by
      unfold checkOpen
      rw [bind_of_ok (session_eq d), ended]
      rfl
    exact .inr (.inr ⟨_, d, .refl d, bind_of_error refused⟩)
  | false =>
    rw [bind_of_ok (checkOpen_of_open ended)]
    cases checked : scope.check variant with
    | error error => exact .inr (.inr ⟨error, d, .refl d, rfl⟩)
    | ok done =>
      rw [bind_of_ok (show ofExcept (.ok done) d = .ok done d from rfl),
        bind_of_ok (session_eq d)]
      cases found : (d.session.slot scope)[variant]? with
      -- in its slot, and nothing is read
      | some handle => exact .inl ⟨handle, found, rfl, rfl⟩
      -- not in its slot: it is loaded, and takes the next handle
      | none =>
        obtain ⟨d', alike, marks, ⟨o, ran, loads⟩ | ⟨error, failed⟩⟩ :=
          loadObject_cases variant scope (d.setSlot scope (d.session.slot scope))
        · exact .inr (.inl ⟨o, d', rfl, rfl, (Alike.touched d scope).loads_iff.mp loads,
            (Alike.touched d scope).trans alike, marks, bind_of_ok ran⟩)
        · exact .inr (.inr ⟨error, d', (Alike.touched d scope).trans alike,
            (bind_of_ok (show modifySession _ d = .ok () _ from rfl)).trans (bind_of_error failed)⟩)

/-- A lookup that fails leaves all as it was. -/
theorem alike_of_find_error {error : Error} (failed : find variant scope d = .error error d') :
    Alike d d' := by
  -- the other two ways a lookup can go are successes
  rcases find_cases variant scope d with ⟨handle, -, -, ran⟩ | ⟨o, d₁, -, -, -, -, -, ran⟩ |
    ⟨error, d₁, alike, ran⟩
  · cases failed.symm.trans ran
  · cases failed.symm.trans ran
  · cases failed.symm.trans ran
    exact alike

/-- **Storing an object** that is live and of a scope that is present: only the store can refuse. -/
theorem persistObject_eq (live : (d.session.object handle).destroyed = false)
    (present : d.Present (d.session.object handle).scope) (time : Int64) :
    persistObject handle time d =
      let o := d.session.object handle
      let cell := o.scope.cell o.variant
      match d.store.fault d.store.past (.write cell) with
      | none => .ok () ((d.noted (.write cell)).saved handle time)
      | some text => .error (.storage text) (d.noted (.write cell)) := by
  have looks : object handle d = .ok (d.session.object handle) d := rfl
  have saves := onStore_put .configs
    ((d.session.object handle).scope.slotKey (d.session.object handle).variant)
    (StoredObject.codec.write { time, dump := (d.session.object handle).dump }) d
  unfold persistObject
  -- neither the mark of the end nor the check stands in the way, so the write decides
  rw [bind_of_ok looks, live, if_neg (by simp)]
  dsimp only [Scope.cell]
  rw [bind_of_ok (checkPresent_of_present present)]
  cases fault : d.store.fault d.store.past (.write ⟨.configs,
      (d.session.object handle).scope.slotKey (d.session.object handle).variant⟩) with
  | none =>
    simp only [fault] at saves ⊢
    exact bind_of_ok saves
  | some text =>
    simp only [fault] at saves ⊢
    exact bind_of_error saves

end SessionM

end ConfigReplica
