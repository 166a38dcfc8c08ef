import ConfigReplica.Proofs.Session.Rows
import ConfigReplica.Proofs.Session.Runs

/-!
# Memory and store agree

An object in use that needs no storing is what a new session would load: it is still as
new and has no row, or it is read back from its row as it is, down to the identifiers of
the updates that it remembers (`Device.memory_agrees_with_store`). This holds after every
run, whichever steps the store refuses, except for objects whose frame is too long to be
read at all. Storing everything, when it succeeds, brings all objects there.

The invariant is `Device.Durable`, and each effect has one reason to keep it:

* an object that changes is marked for storing (`Config.Object.Change.settled`);
* a row is written together with taking the mark off, and rows of different objects are
  different (`Scope.slotKey_inj`);
* a row is deleted only when nothing is in the slot that it belongs to.
-/

namespace ConfigReplica

open Config

namespace Config.Object

variable {deed : Deed} {o o' : Object}

/-- A change that does not mark an object for storing is none. -/
theorem Change.settled (change : Change deed o o') (settled : o'.needsDump = false) :
    o' = o := by
  cases change with
  | edit plan time entropy ran =>
    rw [edit_cases ran] at settled ⊢
    -- an edit that leaves the state as it is leaves the mark as well, and any other sets it
    unfold revise at settled ⊢
    split
    · rfl
    · next differs =>
      rw [if_neg differs] at settled
      cases settled
  -- an update that was merged before changes nothing; a new one marks the object
  | merge accepted =>
    rcases merge_cases accepted with ⟨-, rfl⟩ | ⟨s, -, rfl⟩
    · rfl
    · cases settled
  | confirm seqno hash =>
    -- an acknowledgement either matches nothing, or marks what it cleaned
    unfold Object.confirm at settled ⊢
    split
    · rfl
    · next known =>
      rw [if_neg known] at settled
      cases settled

/-- Whatever becomes of an object, it remembers as many updates as it was set to. -/
theorem Change.remembers {memory : Nat} (change : Change deed o o')
    (remembers : o.Remembers memory) : o'.Remembers memory := by
  cases change with
  | edit plan time entropy ran =>
    rw [edit_cases ran]
    unfold revise
    split <;> exact ⟨remembers.bound, remembers.few⟩
  | merge accepted =>
    -- a merge cuts what is remembered to the bound; nothing else touches it
    rcases merge_cases accepted with ⟨-, rfl⟩ | ⟨s, -, rfl⟩
    · exact remembers
    · refine ⟨remembers.bound, ?_⟩
      rw [← remembers.bound]
      exact length_keepLast_le _ _
  | confirm seqno hash =>
    unfold Object.confirm
    split <;> exact ⟨remembers.bound, remembers.few⟩

end Config.Object

namespace Device

variable {deed : Deed} {d d' : Device} {scope other : Scope} {variant v : Variant}
  {handle i : Handle} {o : Object}

/-! ### What a new session reads -/

/-- Every new session over the same rows and with the same settings reads this object, unless
the store refuses to give the row. -/
def ReadBack (d : Device) (scope : Scope) (variant : Variant) (o : Object) : Prop :=
  ∀ (ring : Seal.Keyring) (store : Store) (entropy : Entropy) (clock : Int64),
    store.rows = d.store.rows →
    store.fault store.past (.read (scope.cell variant)) = none →
    ∃ d', SessionM.read variant scope
      ⟨{ ring, settings := d.session.settings }, store, entropy, clock⟩ = .ok o d'

/-- **Memory and store agree** on an object: it is new and has no row, or it is read back from
its row, unless its frame is too long to be read. -/
def Agrees (d : Device) (scope : Scope) (variant : Variant) (o : Object) : Prop :=
  (d.store.row? (scope.cell variant) = none ∧
    ∃ origin, o = (Object.blank variant scope origin).withMemory d.session.settings.memory) ∨
  ((d.store.row? (scope.cell variant)).isSome ∧
    (¬ maxSize < o.dumpFrame.length → d.ReadBack scope variant o))

end Device

namespace Device

variable {d : Device} {scope : Scope} {variant : Variant} {o : Object}

/-- A new session finds what there is to load. -/
theorem Loads.readBack (loads : d.Loads scope variant o)
    (admitted : scope.admits variant = true)
    (row : (d.store.row? (scope.cell variant)).isSome) : d.ReadBack scope variant o := by
  -- the row alone decides what is loaded, and the other store has it too
  intro ring store entropy clock rows works
  obtain ⟨bytes, row⟩ := Option.isSome_iff_exists.mp row
  unfold Loads at loads
  rw [row] at loads
  obtain ⟨stored, p, decoded, loaded, rfl⟩ := loads
  have row' : store.row? (scope.cell variant) = some bytes := by
    unfold Store.row? at row ⊢
    rwa [rows]
  -- a new session has nothing in memory yet
  have free :
      (({ ring, settings := d.session.settings } : Session).slot scope)[variant]? = none := by
    simp [Session.slot]
  exact ⟨_, SessionM.read_of_free rfl admitted free
    (SessionM.loadObject_of_row works row' decoded loaded)⟩

/-- What is loaded agrees with the store. -/
theorem Loads.agrees (loads : d.Loads scope variant o) (admitted : scope.admits variant = true) :
    d.Agrees scope variant o := by
  cases row : d.store.row? (scope.cell variant) with
  -- without a row an object is made anew, and with one it is read back
  | none =>
    unfold Loads at loads
    rw [row] at loads
    exact .inl ⟨row, loads⟩
  | some bytes =>
    have isSome : (d.store.row? (scope.cell variant)).isSome := by rw [row]; rfl
    exact .inr ⟨isSome, fun _ => loads.readBack admitted isSome⟩

/-- What is loaded depends on the row and the memory alone. -/
theorem Loads.congr {d' : Device} (loads : d.Loads scope variant o)
    (row : d'.store.row? (scope.cell variant) = d.store.row? (scope.cell variant))
    (settings : d'.session.settings = d.session.settings) : d'.Loads scope variant o := by
  unfold Loads at loads ⊢
  rwa [row, settings]

/-! ### The invariant -/

/-- An object is what would be loaded, or it was stored with a frame that is too long. -/
def Settled (d : Device) (scope : Scope) (variant : Variant) (o : Object) : Prop :=
  d.Loads scope variant o ∨
    ((d.store.row? (scope.cell variant)).isSome ∧ maxSize < o.dumpFrame.length)

/-- What is settled agrees with the store. -/
theorem Settled.agrees (settled : d.Settled scope variant o)
    (admitted : scope.admits variant = true) : d.Agrees scope variant o := by
  rcases settled with loads | ⟨row, long⟩
  · exact loads.agrees admitted
  · -- the frame is too long, and nothing is said of such objects
    exact .inr ⟨row, fun short => absurd long short⟩

/-- Nothing but the row and the settings matters for that. -/
theorem Settled.congr {d' : Device} (settled : d.Settled scope variant o)
    (row : d'.store.row? (scope.cell variant) = d.store.row? (scope.cell variant))
    (settings : d'.session.settings = d.session.settings) : d'.Settled scope variant o := by
  rcases settled with loads | ⟨some, long⟩
  · exact .inl (loads.congr row settings)
  · exact .inr ⟨row ▸ some, long⟩

/-- **A durable device**: every object in use that is not marked for storing is settled. -/
structure Durable (d : Device) : Prop where
  remembers : ∀ scope variant handle, d.Placed scope variant handle →
    (d.session.object handle).Remembers d.session.settings.memory
  settled : ∀ scope variant handle, d.Placed scope variant handle →
    (d.session.object handle).needsDump = false →
      d.Settled scope variant (d.session.object handle)

variable {d' : Device} {deed : Deed}

/-- Effects that leave the objects in use and their rows alone. -/
theorem Durable.of_kept (durable : d.Durable)
    (settings : d'.session.settings = d.session.settings)
    (kept : ∀ scope variant handle, d'.Placed scope variant handle →
      d.Placed scope variant handle ∧
      d'.session.object handle = d.session.object handle ∧
      d'.store.row? (scope.cell variant) = d.store.row? (scope.cell variant)) : d'.Durable where
  remembers scope variant handle placed := by
    obtain ⟨before, object, -⟩ := kept scope variant handle placed
    rw [object, settings]
    exact durable.remembers scope variant handle before
  settled scope variant handle placed clean := by
    obtain ⟨before, object, row⟩ := kept scope variant handle placed
    rw [object] at clean ⊢
    exact (durable.settled scope variant handle before clean).congr row settings

/-- A new object in use is what was loaded. -/
theorem Durable.adopted (durable : d.Durable) (tidy : d.Tidy) (loads : d.Loads scope variant o) :
    (d.adopt scope variant o).Durable := by
  -- whatever is loaded is cut to the memory of the session
  have remembers : o.Remembers d.session.settings.memory := by
    unfold Loads at loads
    split at loads
    · obtain ⟨origin, rfl⟩ := loads
      exact Object.remembers_withMemory _ _
    · obtain ⟨stored, p, -, -, rfl⟩ := loads
      exact Object.remembers_withMemory _ _
  refine ⟨?_, ?_⟩
  · -- every object in use remembers what it may: the adopted one was cut, the others did before
    intro other v handle placed
    rw [object_adopt]
    rw [placed_adopt] at placed
    split at placed
    · rw [if_pos placed]
      exact remembers
    · rw [if_neg (Nat.ne_of_lt (tidy other v handle placed).1)]
      exact durable.remembers other v handle placed
  · -- the adopted object is what was loaded, and the others are where they were
    intro other v handle placed clean
    rw [object_adopt] at clean ⊢
    rw [placed_adopt] at placed
    split at placed
    · next here =>
      obtain ⟨rfl, rfl⟩ := here
      rw [if_pos placed]
      exact .inl (loads.congr rfl rfl)
    · -- its handle is new, so no other slot has it
      have old := Nat.ne_of_lt (tidy other v handle placed).1
      rw [if_neg old] at clean ⊢
      exact (durable.settled other v handle placed clean).congr rfl rfl

/-- An object that changed is marked for storing. -/
theorem Durable.changed (durable : d.Durable) {handle : Handle}
    (change : Object.Change deed (d.session.object handle) o) :
    (d.setObject handle o).Durable := by
  refine ⟨?_, ?_⟩
  · intro scope variant i placed
    rw [object_setObject]
    split
    · next here =>
      obtain ⟨rfl, -⟩ := here
      exact change.remembers (durable.remembers scope variant i placed)
    · exact durable.remembers scope variant i placed
  · intro scope variant i placed clean
    rw [object_setObject] at clean ⊢
    split at clean
    · -- the change left no mark, so there was none
      next here =>
      obtain ⟨rfl, known⟩ := here
      obtain rfl := change.settled clean
      rw [if_pos ⟨rfl, known⟩]
      exact (durable.settled scope variant i placed clean).congr rfl rfl
    · next other =>
      rw [if_neg other]
      exact (durable.settled scope variant i placed clean).congr rfl rfl

/-- An object that is stored is settled, and no other row is touched. -/
theorem Durable.stored (durable : d.Durable) (tidy : d.Tidy) {handle : Handle}
    (placed : d.Placed scope variant handle) (time : Int64)
    (live : (d.session.object handle).destroyed = false) : (d.saved handle time).Durable := by
  obtain ⟨known, -, hasScope, hasVariant, -⟩ := tidy scope variant handle placed
  subst hasScope hasVariant
  have remembers := durable.remembers _ _ handle placed
  refine ⟨?_, ?_⟩
  · intro other v i placed'
    rw [object_saved known]
    split
    · -- storing changes the mark of an object, and not what it remembers
      exact ⟨remembers.bound, remembers.few⟩
    · exact durable.remembers other v i placed'
  · intro other v i placed' clean
    rw [object_saved known] at clean ⊢
    by_cases same : i = handle
    · -- the object that was stored is in no other slot
      subst same
      obtain ⟨-, -, sameScope, sameVariant, -⟩ := tidy other v i placed'
      subst sameScope sameVariant
      have row := (row?_saved d i time _).trans (if_pos rfl)
      rw [if_pos rfl]
      -- a frame that is too long is written all the same
      by_cases long : maxSize < (d.session.object i).dumpFrame.length
      · exact .inr ⟨by rw [row]; rfl, long⟩
      · exact .inl (loads_of_row row long remembers live)
    · -- another object has another row
      rw [if_neg same] at clean ⊢
      refine (durable.settled other v i placed' clean).congr ?_ rfl
      rw [row?_saved, if_neg]
      intro cells
      obtain ⟨rfl, rfl⟩ := Scope.cell_inj cells
      exact same (Option.some.inj (placed'.symm.trans placed))

/-- **Every effect keeps a device durable.** -/
theorem Effect.durable (effect : Effect deed d d') (tidy : d.Tidy) (durable : d.Durable) :
    d'.Durable := by
  -- one case for each effect: most of them touch neither objects in use nor their rows
  cases effect with
  | adopted handles isOpen admitted free loads => exact durable.adopted tidy loads
  | changed handles change => exact durable.changed change
  | stored stores object placed time live present =>
    subst object
    exact durable.stored tidy placed time live
  | aside same =>
    refine durable.of_kept same.settings fun scope variant handle placed => ?_
    unfold Store.row?
    rw [same.rows]
    exact ⟨same.placed_iff.mp placed, same.object handle, rfl⟩
  | touched handles scope isOpen =>
    refine durable.of_kept rfl fun other variant handle placed => ?_
    exact ⟨(placed_touch _ _ _ _ _).mp placed, rfl, rfl⟩
  | markSaved change known =>
    -- the row of the marks is of another table
    refine durable.of_kept rfl fun scope variant handle placed => ⟨placed, rfl, ?_⟩
    rw [row?_setRow, if_neg (by simp [RemovalMarks.cell, Scope.cell])]
  | watermarkSaved v bytes =>
    refine durable.of_kept rfl fun scope variant handle placed => ⟨placed, rfl, ?_⟩
    rw [row?_setRow, if_neg (by simp [Scope.cell])]
  | evicted group =>
    refine durable.of_kept rfl fun scope variant handle placed => ⟨?_, rfl, rfl⟩
    -- what is still in use was in use before
    exact placed_of_evicted placed
  | destroyed loose =>
    -- the object was in no slot when it was destroyed
    refine durable.of_kept rfl fun scope variant handle placed => ⟨placed, ?_, rfl⟩
    rw [object_setObject, if_neg]
    rintro ⟨rfl, -⟩
    exact loose scope variant placed
  | rowDeleted v mine vacant =>
    -- the row that goes is of no object in use
    refine durable.of_kept rfl fun scope variant handle placed => ⟨placed, rfl, ?_⟩
    rw [row?_eraseRow, if_neg]
    intro cells
    obtain ⟨rfl, rfl⟩ := Scope.cell_inj cells
    exact vacant handle placed
  | otherDeleted other =>
    -- the row is of no object at all
    refine durable.of_kept rfl fun scope variant handle placed => ⟨placed, rfl, ?_⟩
    rw [row?_eraseRow, if_neg]
    rintro rfl
    exact other rfl
  | cleared objects =>
    -- nothing is in use any more
    refine durable.of_kept rfl fun scope variant handle placed => ?_
    simp [Placed, Session.slot] at placed
  | recalled unread stored => exact durable.of_kept rfl fun _ _ _ placed => ⟨placed, rfl, rfl⟩
  | remarked change known => exact durable.of_kept rfl fun _ _ _ placed => ⟨placed, rfl, rfl⟩
  | closed mine => exact durable.of_kept rfl fun _ _ _ placed => ⟨placed, rfl, rfl⟩
  | forgot => exact durable.of_kept rfl fun _ _ _ placed => ⟨placed, rfl, rfl⟩

/-- A session that is opened has nothing in use, so there is nothing to settle. -/
theorem durable_opened (d : Device) (ring : Seal.Keyring) (settings : Settings) :
    (d.opened ring settings).Durable := by
  refine ⟨?_, ?_⟩ <;>
    · intro scope variant handle placed
      simp [Placed, Session.slot, opened] at placed

/-- **A device that sessions come to is durable**, whatever they did. -/
theorem Reached.durable (reached : d.Reached) : d.Durable := by
  obtain ⟨d₀, ring, settings, run⟩ := reached
  -- along the run: effects keep it, time makes no difference to it, and opening starts anew
  refine (run.keeps (tidy_opened _ _ _) ?_ ?_ ?_ (durable_opened _ _ _)).2
  · exact fun _ tidy effect durable => effect.durable tidy durable
  · exact fun _ durable => durable.of_kept rfl fun _ _ _ placed => ⟨placed, rfl, rfl⟩
  · exact fun _ _ => durable_opened _ _ _

/-! ### The theorem -/

/-- **Memory and store agree** on every object in use that is not marked for storing, after
every run; and after everything was stored, on every object in use. -/
theorem memory_agrees_with_store (reached : d.Reached) :
    (∀ scope variant handle, d.Placed scope variant handle →
      (d.session.object handle).needsDump = false →
        d.Agrees scope variant (d.session.object handle)) ∧
    ∀ count d', SessionM.persistAll d = .ok count d' → ∀ scope variant handle,
      d'.Placed scope variant handle → d'.Agrees scope variant (d'.session.object handle) := by
  have agrees {d : Device} (reached : d.Reached) {scope : Scope} {variant : Variant}
      {handle : Handle} (placed : d.Placed scope variant handle)
      (clean : (d.session.object handle).needsDump = false) :
      d.Agrees scope variant (d.session.object handle) :=
    (reached.durable.settled scope variant handle placed clean).agrees
      (reached.tidy scope variant handle placed).2.1
  refine ⟨fun scope variant handle placed clean => agrees reached placed clean, ?_⟩
  intro count d' ran scope variant handle placed
  have after : Runs {} d d' := by
    rw [← stateAfter_of_ok ran]
    exact .act (.refl d) .persistAll trivial
  have clean := SessionM.does_persistAll.post reached.tidy trivial ran scope variant handle placed
  exact agrees (reached.trans after) placed clean

/-- The object of an account that was edited once is read back from its row. -/
theorem memory_agrees_with_store_edited :
    ∃ d : Device, d.Reached ∧ d.Placed .account .contacts 0 ∧
      (d.session.object 0).seqno = 1 ∧ (d.session.object 0).needsDump = false ∧
      d.ReadBack .account .contacts (d.session.object 0) := by
  have edited : ∃ d : Device, Runs {} (fresh 5) d ∧ d.Placed .account .contacts 0 ∧
      (d.session.object 0).seqno = 1 ∧ (d.session.object 0).needsDump = false ∧
      (d.store.row? (Scope.account.cell .contacts)).isSome ∧
      (d.session.object 0).dumpFrame.length ≤ maxSize :=
    ⟨_, .act (.refl _) (.edit .contacts .account (.set "contacts" "x" "1")) trivial,
      rfl, rfl, rfl, by decide +kernel, by decide +kernel⟩
  obtain ⟨d, run, placed, once, clean, row, short⟩ := edited
  have reached := (reached_fresh 5).trans run
  refine ⟨d, reached, placed, once, clean, ?_⟩
  rcases (memory_agrees_with_store reached).1 .account .contacts 0 placed clean with
    ⟨none, -⟩ | ⟨-, readBack⟩
  · rw [none] at row
    cases row
  · exact readBack (not_lt.mpr short)

end Device

end ConfigReplica
