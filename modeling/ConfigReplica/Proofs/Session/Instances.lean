import ConfigReplica.Proofs.Session.Outcomes
import ConfigReplica.Proofs.Session.Removal
import Mathlib.Data.List.Nodup

/-!
# One live instance

A handle outlives the slot that its object was in. While a session goes on, the live objects of
a scope and variant are the one in its slot, if there is one, and those that a removal **left
behind** (`Device.LeftBehind`): a removal takes all objects of the group out of their slots, and
then ends them and deletes their rows variant by variant. Where the store refuses to delete a row
the removal fails there, and the objects whose turn had not come stay live for good. They are in no
slot, so no later removal finds them, and whoever asks for the object is given another one.

* Only the removal of a group makes an object **stray**, live but in no slot: what every other
  effect does to stray objects is nothing (`Device.Effect.stray_iff`).
* A removal ends the objects of the group in the order of the variants, as far as it comes
  (`SessionM.removeGroup_cases`).
-/

namespace ConfigReplica

open Config

namespace Device

variable {deed : Deed} {d d' : Device} {scope : Scope} {variant : Variant} {handle : Handle}

/-- The object of a handle has not ended. -/
def Live (d : Device) (handle : Handle) : Prop :=
  (d.session.object handle).destroyed = false

/-- The object of a handle is live but in no slot. -/
def Stray (d : Device) (handle : Handle) : Prop :=
  d.Live handle ∧ ¬ d.InUse handle

/-- A handle is that of an object of a scope and variant. -/
structure Instance (d : Device) (scope : Scope) (variant : Variant) (handle : Handle) : Prop where
  known : handle < d.session.objects.size
  scope_eq : (d.session.object handle).scope = scope
  variant_eq : (d.session.object handle).variant = variant

/-- What a slot holds is a live instance of its scope and variant. -/
theorem Placed.isInstance (placed : d.Placed scope variant handle) (tidy : d.Tidy) :
    d.Instance scope variant handle ∧ d.Live handle := by
  obtain ⟨known, -, hasScope, hasVariant, live⟩ := tidy scope variant handle placed
  exact ⟨⟨known, hasScope, hasVariant⟩, live⟩

/-- Instances are in no slot but that of their scope and variant. -/
theorem Instance.placed (isOf : d.Instance scope variant handle) (tidy : d.Tidy)
    (used : d.InUse handle) : d.Placed scope variant handle := by
  obtain ⟨other, v, placed⟩ := used
  obtain ⟨-, -, hasScope, hasVariant, -⟩ := tidy other v handle placed
  rw [← isOf.scope_eq, ← isOf.variant_eq, hasScope, hasVariant]
  exact placed

/-! ### What effects do to instances -/

section Updates

variable {i : Handle} {o : Object}

/-- Another object under a handle: as long as it has ended or not like the one before, all stay as
live. -/
theorem live_setObject (same : o.destroyed = (d.session.object i).destroyed) :
    (d.setObject i o).Live handle ↔ d.Live handle := by
  unfold Live
  rw [object_setObject]
  split
  · -- here it is the object itself that is asked about
    next here => rw [here.1, same]
  · rfl

/-- Another object under a handle, with the scope and variant of the one before. -/
theorem Instance.setObject (isOf : d.Instance scope variant handle)
    (sameScope : o.scope = (d.session.object i).scope)
    (sameVariant : o.variant = (d.session.object i).variant) :
    (d.setObject i o).Instance scope variant handle := by
  refine ⟨(size_setObject d i o).symm ▸ isOf.known, ?_, ?_⟩
  · rw [object_setObject]
    split
    · next here => exact (sameScope.trans (here.1 ▸ rfl)).trans isOf.scope_eq
    · exact isOf.scope_eq
  · rw [object_setObject]
    split
    · next here => exact (sameVariant.trans (here.1 ▸ rfl)).trans isOf.variant_eq
    · exact isOf.variant_eq

/-- What is made anew is in use, and all else is as before. -/
theorem stray_adopt (free : (d.session.slot scope)[variant]? = none) :
    (d.adopt scope variant o).Stray handle ↔ d.Stray handle := by
  by_cases new : handle = d.session.objects.size
  · -- the new handle stood for no object before
    have used : (d.adopt scope variant o).InUse handle :=
      ⟨scope, variant, (placed_adopt ..).mpr (by simpa using new)⟩
    have unknown : ¬ d.Live handle := by
      simp [Live, Session.object, new, Session.noObject]
    exact ⟨fun stray => absurd used stray.2, fun stray => absurd stray.1 unknown⟩
  · have sameLive : (d.adopt scope variant o).Live handle ↔ d.Live handle := by
      unfold Live
      rw [object_adopt, if_neg new]
    have sameUse : (d.adopt scope variant o).InUse handle ↔ d.InUse handle := by
      constructor
      · -- the slot that was free holds the new handle, and no other slot changed
        rintro ⟨other, v, placed⟩
        rw [placed_adopt] at placed
        split at placed
        · exact absurd placed new
        · exact ⟨other, v, placed⟩
      · rintro ⟨other, v, placed⟩
        exact ⟨other, v, placed.adopt free o⟩
    rw [Stray, Stray, sameLive, sameUse]

end Updates

/-- Where some objects are ended, the live ones are those that were and are not among them. -/
theorem live_of_ends {s : Session} {gone : Handle → Prop}
    (ends : Session.Ends gone d.session s) :
    (s.object handle).destroyed = false ↔ d.Live handle ∧ ¬ gone handle := by
  by_cases here : gone handle
  · rw [ends.ended handle here]
    exact ⟨nofun, fun live => absurd here live.2⟩
  · rw [ends.others handle here]
    exact ⟨fun live => ⟨live, here⟩, And.left⟩

/-- **An instance stays one**, whatever becomes of it. -/
theorem Instance.effect (isOf : d.Instance scope variant handle) (effect : Effect deed d d') :
    d'.Instance scope variant handle := by
  cases effect with
  | aside same =>
    obtain ⟨known, hasScope, hasVariant⟩ := isOf
    unfold Session.object at hasScope hasVariant
    rw [← same.objects] at known hasScope hasVariant
    exact ⟨known, hasScope, hasVariant⟩
  -- known handles are smaller than the new one
  | adopted handles isOpen admitted free loads =>
    have other : handle ≠ d.session.objects.size := Nat.ne_of_lt isOf.known
    refine ⟨?_, ?_, ?_⟩
    · rw [size_adopt]
      exact Nat.lt_succ_of_lt isOf.known
    · rw [object_adopt, if_neg other]
      exact isOf.scope_eq
    · rw [object_adopt, if_neg other]
      exact isOf.variant_eq
  | changed handles change =>
    obtain ⟨sameVariant, sameScope, -⟩ := change.keeps
    exact isOf.setObject sameScope sameVariant
  | stored stores object placed time live present =>
    subst object
    exact Instance.setObject (d := d.setRow _ _) ⟨isOf.1, isOf.2, isOf.3⟩ rfl rfl
  | destroyed loose => exact isOf.setObject rfl rfl
  -- a wipe ends objects, and keeps what their scope and variant is
  | cleared objects ends =>
    refine ⟨?_, ?_, ?_⟩
    · exact ends.size.symm ▸ isOf.known
    all_goals
      by_cases used : handle ∈ d.session.handles
      · first
        | exact (congrArg Object.scope (ends.ended handle used)).trans isOf.scope_eq
        | exact (congrArg Object.variant (ends.ended handle used)).trans isOf.variant_eq
      · first
        | exact (congrArg Object.scope (ends.others handle used)).trans isOf.scope_eq
        | exact (congrArg Object.variant (ends.others handle used)).trans isOf.variant_eq
  | _ => exact ⟨isOf.1, isOf.2, isOf.3⟩

/-- **Only removals make objects stray.** -/
theorem Effect.stray_iff (effect : Effect deed d d') (other : ∀ group, deed ≠ .remove group) :
    d'.Stray handle ↔ d.Stray handle := by
  cases effect with
  -- a stray object is one of the session's objects and slots, which are the same ones
  | aside same =>
    unfold Stray Live InUse Placed Session.object Session.slot
    rw [same.objects, same.slots]
  | touched handles scope isOpen =>
    simp only [Stray, InUse, placed_touch]
    rfl
  | adopted handles isOpen admitted free loads => exact stray_adopt free
  | changed handles change =>
    obtain ⟨-, -, -, -, same⟩ := change.keeps
    exact and_congr_left' (live_setObject same)
  | stored stores object placed time live present =>
    subst object
    exact and_congr_left' (live_setObject (d := d.setRow _ _) rfl)
  | evicted group => exact absurd rfl (other group)
  -- objects are destroyed one by one in a removal only
  | destroyed loose => exact absurd rfl (other _)
  | cleared objects ends =>
    -- what was in use has ended, and now nothing is
    have used : handle ∈ d.session.handles ↔ d.InUse handle := Session.mem_handles_iff
    refine Iff.trans (and_iff_left ?_) ((live_of_ends ends).trans (and_congr_right' used.not))
    rintro ⟨scope, variant, placed⟩
    simp [Placed, Session.slot] at placed
  | _ => exact Iff.rfl

end Device

/-! ### Removals -/

namespace SessionM

open Device

variable {d d' : Device} {group : GroupId} {handle : Handle}

/-- What a removal does for one variant. -/
def removeVariant (scope : Scope) (slot : Std.ExtTreeMap Variant Handle) (variant : Variant) :
    SessionM Unit := do
  slot[variant]?.forM destroyObject
  deleteRow scope variant

/-- **One variant of a removal**: the object in its slot ends, and the row is deleted or refused. -/
theorem removeVariant_cases (scope : Scope) (slot : Std.ExtTreeMap Variant Handle)
    (variant : Variant) (d : Device) :
    ∃ d', Session.Ends (fun handle => slot[variant]? = some handle) d.session d'.session ∧
      (removeVariant scope slot variant d = .ok () d' ∨
        (∃ error, removeVariant scope slot variant d = .error error d') ∧
          d'.store.past.head? = some (.delete (scope.cell variant))) := by
  -- the row is deleted, or not, after the object has ended
  have deletes (d₁ : Device)
      (ends : Session.Ends (fun handle => slot[variant]? = some handle) d.session d₁.session)
      (ended : slot[variant]?.forM destroyObject d = .ok () d₁) :
      ∃ d', Session.Ends (fun handle => slot[variant]? = some handle) d.session d'.session ∧
        (removeVariant scope slot variant d = .ok () d' ∨
          (∃ error, removeVariant scope slot variant d = .error error d') ∧
            d'.store.past.head? = some (.delete (scope.cell variant))) := by
    have ran : removeVariant scope slot variant d = deleteRow scope variant d₁ := bind_of_ok ended
    have deleted := onStore_delete .configs (scope.slotKey variant) d₁
    rw [ran]
    split at deleted
    · refine ⟨_, ?_, .inl deleted⟩
      exact ends
    · refine ⟨_, ?_, .inr ⟨⟨_, deleted⟩, rfl⟩⟩
      exact ends
  -- with no object in the slot there is nothing to end
  cases found : slot[variant]? with
  | none =>
    rw [found] at deletes
    exact deletes d ((Session.Ends.refl _).congr fun _ => by simp) rfl
  | some handle =>
    rw [found] at deletes
    refine deletes (d.setObject handle (d.session.object handle).destroy)
      ((Session.Ends.one d.session handle).congr fun i => ?_) rfl
    simp [eq_comm]

/-- The handles of some variants in a slot. -/
def Among (slot : Std.ExtTreeMap Variant Handle) (variants : List Variant) (handle : Handle) :
    Prop :=
  ∃ variant ∈ variants, slot[variant]? = some handle

/-- **Variant by variant**: the objects end in their order, up to the one whose row the store
refuses to delete. -/
theorem removeVariants_cases (scope : Scope) (slot : Std.ExtTreeMap Variant Handle)
    (variants : List Variant) (d : Device) :
    (∃ d', variants.forM (removeVariant scope slot) d = .ok () d' ∧
      Session.Ends (Among slot variants) d.session d'.session) ∨
    ∃ before refused after error d', variants = before ++ refused :: after ∧
      variants.forM (removeVariant scope slot) d = .error error d' ∧
      d'.store.past.head? = some (.delete (scope.cell refused)) ∧
      Session.Ends (Among slot (before ++ [refused])) d.session d'.session := by
  -- the first variant that fails ends the sequence, and no later object is reached
  induction variants generalizing d with
  | nil => exact .inl ⟨d, rfl, (Session.Ends.refl _).congr fun _ => by simp [Among]⟩
  | cons variant variants ih =>
    obtain ⟨d₁, ends₁, ran | ⟨⟨error, failed⟩, last⟩⟩ := removeVariant_cases scope slot variant d
    · -- the row was deleted, so the rest goes on from there
      have rest : (variant :: variants).forM (removeVariant scope slot) d =
          variants.forM (removeVariant scope slot) d₁ := bind_of_ok ran
      rw [rest]
      rcases ih d₁ with ⟨d', done, ends⟩ |
        ⟨before, refused, after, error, d', split, failed, last, ends⟩
      · exact .inl ⟨d', done, (ends₁.trans ends).congr fun i => by simp [Among]⟩
      · refine .inr ⟨variant :: before, refused, after, error, d', by rw [split]; rfl, failed, last,
          (ends₁.trans ends).congr fun i => ?_⟩
        simp [Among]
    · -- the row was not deleted, and the rest is not reached
      exact .inr ⟨[], variant, variants, error, d₁, rfl, bind_of_error failed, last,
        ends₁.congr fun i => by simp [Among]⟩

/-- Changing the marks leaves objects and slots alone, and deletes nothing. -/
theorem updateMarks_cases (f : RemovalMarks → RemovalMarks) (d : Device) :
    ∃ d', d'.session.objects = d.session.objects ∧
      (∀ scope, d'.session.slot scope = d.session.slot scope) ∧
      (updateMarks f d = .ok () d' ∨
        (∃ error, updateMarks f d = .error error d') ∧
          ∀ cell, d'.store.past.head? ≠ some (.delete cell)) := by
  obtain ⟨d₁, alike, ⟨known, ran⟩ | ⟨error, failed, last⟩⟩ := marks_cases d
  · -- the marks were read, so what may fail is writing them
    have saved := updateMarks_of_marks ran f
    dsimp only at saved
    split at saved
    · refine ⟨_, ?_, ?_, .inl saved⟩
      · exact alike.objects
      · exact alike.slot
    · refine ⟨_, ?_, ?_, .inr ⟨⟨_, saved⟩, fun cell same => ?_⟩⟩
      · exact alike.objects
      · exact alike.slot
      · cases Option.some.inj same
  · -- the marks could not be read; then a read is the last that was asked of the store
    refine ⟨d₁, alike.objects, alike.slot, .inr ⟨⟨error, bind_of_error failed⟩, fun cell => ?_⟩⟩
    rw [last]
    exact nofun

/-- The objects of some variants of a group have ended, and none of the group is in a slot. -/
structure Dropped (group : GroupId) (variants : List Variant) (d d' : Device) : Prop where
  placed : ∀ scope variant handle, d'.Placed scope variant handle ↔
    scope ≠ .group group ∧ d.Placed scope variant handle
  live : ∀ handle, d'.Live handle ↔
    d.Live handle ∧ ¬ ∃ variant ∈ variants, d.Placed (.group group) variant handle

/-- **What a removal comes to**: all objects of the group have ended; or the marks could not be
changed, and nothing has; or the store refused to delete the row of a variant, and those up to it
have. -/
theorem removeGroup_cases (group : GroupId) (d : Device) :
    (∃ d', removeGroup group d = .ok () d' ∧ Dropped group Variant.ofGroup d d') ∨
    (∃ error d', removeGroup group d = .error error d' ∧
      updateMarks (fun marks => marks.insert group d.clock) d = .error error d' ∧
      d'.session.objects = d.session.objects ∧
      (∀ scope, d'.session.slot scope = d.session.slot scope) ∧
      ∀ cell, d'.store.past.head? ≠ some (.delete cell)) ∨
    ∃ before refused after error d', Variant.ofGroup = before ++ refused :: after ∧
      removeGroup group d = .error error d' ∧
      d'.store.past.head? = some (.delete ((Scope.group group).cell refused)) ∧
      Dropped group (before ++ [refused]) d d' := by
  obtain ⟨d₁, objects, slots, ran | ⟨⟨error, failed⟩, last⟩⟩ :=
    updateMarks_cases (fun marks => marks.insert group d.clock) d
  · -- `d₂` is the device once the objects are out of their slots
    let slot := d₁.session.slot (.group group)
    let d₂ : Device := { d₁ with session := { d₁.session with
      slots := d₁.session.slots.erase (.group group) } }
    let ending : SessionM Unit := modifySchedule fun s => s.erase (.closedGroup group)
    have goesOn : removeGroup group d =
        (Variant.ofGroup.forM (removeVariant (.group group) slot) >>= fun _ => ending) d₂ :=
      bind_of_ok ran
    have dropped {variants : List Variant} {s : Session} (d' : Device) (same : d'.session.slots =
        s.slots ∧ d'.session.objects = s.objects) (ends : Session.Ends (Among slot variants)
        d₂.session s) : Dropped group variants d d' := by
      -- no object of the group is in a slot any more, and those of others still are
      refine ⟨fun scope variant handle => ?_, fun handle => ?_⟩
      · have emptied : d'.session.slot scope = d₂.session.slot scope := by
          unfold Session.slot
          rw [same.1, ends.slots]
        unfold Placed
        rw [emptied, Session.slot_erase, slots]
        by_cases here : scope = .group group <;> simp [here]
      · -- the live objects are those that were, but for the ones that ended
        have live : (s.object handle).destroyed = false ↔ _ := live_of_ends ends
        unfold Live Placed Session.object at *
        rw [same.2, ← objects, ← slots]
        exact live
    rw [goesOn]
    rcases removeVariants_cases (.group group) slot Variant.ofGroup d₂ with
      ⟨d₃, done, ends⟩ | ⟨before, refused, after, error, d₃, split, failed, last, ends⟩
    · refine .inl ⟨_, bind_of_ok done, dropped _ ?_ ends⟩
      exact ⟨rfl, rfl⟩
    · exact .inr (.inr ⟨before, refused, after, error, d₃, split, bind_of_error failed, last,
        dropped _ ⟨rfl, rfl⟩ ends⟩)
  · -- the marks could not be changed, and nothing else was tried
    have stops : removeGroup group d = .error error d₁ :=
      (bind_of_ok (show now d = .ok d.clock d from rfl)).trans (bind_of_error failed)
    exact .inr (.inl ⟨error, d₁, stops, failed, objects, slots, last⟩)

/-- What is left of a removal: a live object is in no slot afterwards exactly if it was before, or
was in one of the group and has not ended. -/
theorem Dropped.stray_iff {variants : List Variant} (dropped : Dropped group variants d d')
    (tidy : d.Tidy) :
    d'.Stray handle ↔ d.Stray handle ∨
      ∃ variant ∉ variants, d.Placed (.group group) variant handle := by
  constructor
  · -- what is stray afterwards was so before, or has just lost its slot
    rintro ⟨live, unused⟩
    obtain ⟨live, kept⟩ := (dropped.live handle).mp live
    by_cases used : d.InUse handle
    · -- it was in a slot, and that slot was the group's
      obtain ⟨other, v, placed⟩ := used
      obtain rfl : other = .group group := by
        by_contra elsewhere
        exact unused ⟨other, v, (dropped.placed ..).mpr ⟨elsewhere, placed⟩⟩
      exact .inr ⟨v, fun mem => kept ⟨v, mem, placed⟩, placed⟩
    · exact .inl ⟨live, used⟩
  · -- conversely, an object that was in no slot has not ended by this removal
    rintro (⟨live, unused⟩ | ⟨v, passed, placed⟩)
    · refine ⟨(dropped.live handle).mpr ⟨live, ?_⟩, ?_⟩
      · rintro ⟨v, -, placed⟩
        exact unused ⟨_, v, placed⟩
      · rintro ⟨other, v, placed⟩
        exact unused ⟨other, v, ((dropped.placed ..).mp placed).2⟩
    · obtain ⟨isOf, live⟩ := placed.isInstance tidy
      refine ⟨(dropped.live handle).mpr ⟨live, ?_⟩, ?_⟩
      · rintro ⟨w, mem, also⟩
        -- an object is in the slot of one variant
        obtain ⟨⟨-, -, same⟩, -⟩ := also.isInstance tidy
        rw [← same, isOf.variant_eq] at mem
        exact passed mem
      · rintro ⟨other, w, also⟩
        -- nor is it in a slot of another scope
        obtain ⟨elsewhere, also⟩ := (dropped.placed ..).mp also
        obtain ⟨⟨-, same, -⟩, -⟩ := also.isInstance tidy
        exact elsewhere (same.symm.trans isOf.scope_eq)

end SessionM

namespace Device

open SessionM

variable {d d' d₀ d₁ d₂ : Device} {group : GroupId} {scope : Scope} {variant : Variant}
  {handle : Handle}

/-- **A removal of a group leaves an object behind**: it fails where the store refuses to delete the
row of a variant that comes before the object's. -/
def LeavesBehind (d : Device) (group : GroupId) (handle : Handle) : Prop :=
  ∃ before refused after variant error d', Variant.ofGroup = before ++ refused :: after ∧
    variant ∈ after ∧ d.Placed (.group group) variant handle ∧
    removeGroup group d = .error error d' ∧
    d'.store.past.head? = some (.delete ((Scope.group group).cell refused))

/-- **Removals**: what becomes stray is what they leave behind. -/
theorem stray_removeGroup (tidy : d.Tidy) :
    (stateAfter (removeGroup group) d).Stray handle ↔
      d.Stray handle ∨ d.LeavesBehind group handle := by
  have ofGroup {v : Variant} (placed : d.Placed (.group group) v handle) :
      v ∈ Variant.ofGroup :=
    Scope.mem_variants.mpr (tidy _ _ _ placed).2.1
  rcases removeGroup_cases group d with ⟨d', ran, dropped⟩ |
    ⟨error, d', ran, -, objects, slots, last⟩ |
    ⟨before, refused, after, error, d', split, ran, last, dropped⟩
  · -- the removal succeeded
    -- all have ended
    have none : ¬ d.LeavesBehind group handle := by
      rintro ⟨-, -, -, -, _, _, -, -, -, failed, -⟩
      cases ran.symm.trans failed
    rw [stateAfter_of_ok ran, dropped.stray_iff tidy, or_iff_left none]
    exact or_iff_left fun ⟨v, passed, placed⟩ => passed (ofGroup placed)
  · -- nothing was done to any object
    have none : ¬ d.LeavesBehind group handle := by
      rintro ⟨_, _, _, _, _, _, _, _, _, failed, deleted⟩
      cases ran.symm.trans failed
      exact last _ deleted
    rw [stateAfter_of_error ran, or_iff_left none]
    unfold Stray Live InUse Placed Session.object
    simp only [objects, slots]
  · -- a row was refused: what is left are the objects of the variants after it
    rw [stateAfter_of_error ran, dropped.stray_iff tidy]
    refine or_congr_right ⟨?_, ?_⟩
    · rintro ⟨v, passed, placed⟩
      have mem : v ∈ after := by
        have mem := ofGroup placed
        rw [split, List.append_cons, List.mem_append] at mem
        exact mem.resolve_left passed
      exact ⟨before, refused, after, v, error, d', split, mem, placed, ran, last⟩
    · rintro ⟨b, r, a, v, _, _, split', mem, placed, failed, last'⟩
      cases ran.symm.trans failed
      have cells := Access.delete.inj (Option.some.inj (last.symm.trans last'))
      obtain ⟨-, rfl⟩ := Scope.cell_inj cells
      -- no variant comes twice, so both speak of the same variants
      have nodup : (before ++ refused :: after).Nodup := split ▸ (by decide)
      have once : refused ∉ before ∧ refused ∉ after := by
        have alone := (List.nodup_cons.mp (List.nodup_middle.mp nodup)).1
        simpa using alone
      obtain ⟨rfl, -, rfl⟩ := (List.append_cons_inj_of_notMem once.1 once.2).mp
        (split.symm.trans split')
      refine ⟨v, fun early => ?_, placed⟩
      rw [List.append_cons] at nodup
      exact (List.nodup_append.mp nodup).2.2 v early v mem rfl

end Device

/-- **Every operation**: only a removal that fails half-way makes an object stray. -/
theorem Operation.stray_iff {deed : Deed} {α : Type} {action : SessionM α}
    (operation : Operation deed action) {d : Device} (tidy : d.Tidy) {handle : Handle} :
    (stateAfter action d).Stray handle ↔
      d.Stray handle ∨ ∃ group, deed = .remove group ∧ d.LeavesBehind group handle := by
  -- a chain of effects of another deed keeps what is stray
  have calm (other : ∀ group, deed ≠ .remove group) : (stateAfter action d).Stray handle ↔
      d.Stray handle ∨ ∃ group, deed = .remove group ∧ d.LeavesBehind group handle := by
    have kept : (stateAfter action d).Stray handle ↔ d.Stray handle := by
      have chain := operation.chain tidy
      generalize stateAfter action d = d' at chain
      induction chain with
      | refl => exact Iff.rfl
      | tail past effect ih => exact (effect.stray_iff other).trans ih
    rw [kept, or_iff_left]
    rintro ⟨group, removes, -⟩
    exact other group removes
  cases operation with
  | removeGroup group =>
    rw [Device.stray_removeGroup tidy]
    exact or_congr_right ⟨fun leaves => ⟨group, rfl, leaves⟩, fun ⟨_, same, leaves⟩ =>
      Deed.remove.inj same ▸ leaves⟩
  | _ => exact calm nofun

namespace Device

open SessionM

variable {d d' d₀ d₁ d₂ : Device} {group : GroupId} {scope : Scope} {variant : Variant}
  {handle : Handle}

/-- Asking for an object comes to the same as reading it. -/
theorem Runs.find {terms : Terms} (past : Runs terms d d') (allowed : terms.deed d'.clock .work) :
    Runs terms d (stateAfter (SessionM.find variant scope) d') := by
  have same : stateAfter (SessionM.read variant scope) d' =
      stateAfter (SessionM.find variant scope) d' := by
    unfold SessionM.read stateAfter
    -- reading asks for the object once the handle is found, and that changes nothing
    cases found : SessionM.find variant scope d' with
    | ok handle d'' =>
      rw [bind_of_ok found]
      rfl
    | error error d'' => rw [bind_of_error found]
  rw [← same]
  exact past.act (.read variant scope) allowed

/-- What one session is held to: no other is opened. Handles are those of a session. -/
def oneSession : Terms where
  reopen _ := False

/-- **An object was left behind** by a removal between two states of a session. -/
def LeftBehind (d₀ d : Device) (handle : Handle) : Prop :=
  ∃ d₁ group, Runs oneSession d₀ d₁ ∧ d₁.LeavesBehind group handle ∧
    Runs oneSession (stateAfter (removeGroup group) d₁) d

/-- An instance stays one along a session. -/
theorem Instance.runs (isOf : d.Instance scope variant handle) (tidy : d.Tidy)
    (run : Runs oneSession d d') : d'.Instance scope variant handle :=
  (run.keeps (P := fun d => d.Instance scope variant handle) tidy
    (fun _ _ effect isOf => isOf.effect effect) (fun _ isOf => ⟨isOf.1, isOf.2, isOf.3⟩)
    (fun never => never.elim) isOf).2

/-- What is stray stays stray. -/
theorem Stray.runs (stray : d.Stray handle) (tidy : d.Tidy) (run : Runs oneSession d d') :
    d'.Stray handle := by
  induction run with
  | refl => exact stray
  | act past operation allowed ih =>
    exact (operation.stray_iff (past.tidy tidy)).mpr (.inl ih)
  | wait past clock allowed ih => exact ih
  | reopen past ring settings never => exact never.elim

/-- **Along a run**, what is stray was so from the start or was left behind. -/
theorem Runs.stray_iff (run : Runs oneSession d₀ d) (tidy : d₀.Tidy)
    (none : ∀ handle, ¬ d₀.Stray handle) : d.Stray handle ↔ LeftBehind d₀ d handle := by
  constructor
  · -- the induction is on the run, and looks for the operation that made the object stray
    intro stray
    induction run with
    | refl => exact absurd stray (none handle)
    | act past operation allowed ih =>
      rcases (operation.stray_iff (past.tidy tidy)).mp stray with before | ⟨group, rfl, leaves⟩
      · obtain ⟨d₁, group, first, leaves, rest⟩ := ih before
        exact ⟨d₁, group, first, leaves, rest.act operation allowed⟩
      · cases operation
        exact ⟨_, group, past, leaves, .refl _⟩
    | wait past clock allowed ih =>
      obtain ⟨d₁, group, first, leaves, rest⟩ := ih stray
      exact ⟨d₁, group, first, leaves, rest.wait clock allowed⟩
    | reopen past ring settings never => exact never.elim
  · -- what was left behind stays stray for the rest of the run
    rintro ⟨d₁, group, first, leaves, rest⟩
    have tidy₁ := first.tidy tidy
    refine Stray.runs ((stray_removeGroup tidy₁).mpr (.inr leaves)) ?_ rest
    exact ((Operation.removeGroup group).chain tidy₁).tidy tidy₁

/-- A new session has no stray objects. -/
theorem not_stray_opened (d : Device) (ring : Seal.Keyring) (settings : Settings)
    (handle : Handle) : ¬ (d.opened ring settings).Stray handle := by
  simp [Stray, Live, Session.object, opened, Session.noObject]

/-! ### What takes no more -/

/-- The object of a handle takes no edit and no update, as its scope is gone. -/
def Rejects (d : Device) (scope : Scope) (handle : Handle) : Prop :=
  (∀ {α : Type} (time : Int64) (step : EditM α),
    editObject handle time step d = .error (.gone scope) d) ∧
  ∀ id data, mergeObject handle id data d = .error (.gone scope) d

/-- An object rejects what it is given exactly if it has ended. -/
theorem Instance.rejects_iff (isOf : d.Instance scope variant handle) :
    d.Rejects scope handle ↔ ¬ d.Live handle := by
  have looks : object handle d = .ok (d.session.object handle) d := rfl
  have reads : (get : SessionM Device) d = .ok d d := rfl
  constructor
  · -- what has ended takes no edit whatever, so to take one is to be live
    -- an edit that does nothing is taken by every live object
    rintro ⟨edits, -⟩ live
    have ran := edits 0 (pure () : EditM Unit)
    unfold editObject at ran
    rw [bind_of_ok looks] at ran
    have takes : (d.session.object handle).edit 0 d.entropy (pure () : EditM Unit) =
        .ok { object := (d.session.object handle).revise (d.session.object handle).state,
              entropy := d.entropy, result := .ok () } := by
      unfold Object.edit
      have live : (d.session.object handle).destroyed = false := live
      rw [live]
      rfl
    rw [bind_of_ok reads, takes] at ran
    cases ran
  · -- conversely, both begin by asking whether the object has ended
    intro ended
    have ended : (d.session.object handle).destroyed = true := by simpa [Live] using ended
    constructor
    · intro α time step
      have refuses : (d.session.object handle).edit time d.entropy step = .error (.gone scope) := by
        rw [Object.edit, if_pos ended, isOf.scope_eq]
      unfold editObject
      rw [bind_of_ok looks, bind_of_ok reads, refuses]
      rfl
    · intro id data
      have refuses : (d.session.object handle).merge id data = .error (.gone scope) := by
        rw [Object.merge, if_pos ended, isOf.scope_eq]
      unfold mergeObject
      rw [bind_of_ok looks, refuses]
      rfl

/-- **One live instance.** In a session, whatever its store refuses, the handle that was given for
a scope and variant is that of an object of theirs from then on. Of these objects exactly the one in
their slot is live, if there is one, and those that a removal left behind, so of two live ones one
was left behind. After a removal of their group that succeeds, exactly the ones that an earlier
removal left behind still take edits and updates. -/
theorem one_live_instance {settings : Settings} {ring : Seal.Keyring}
    (run : Runs oneSession (opened d₀ ring settings) d) :
    (∀ {scope variant handle d₁ d₂}, Runs oneSession (opened d₀ ring settings) d₁ →
      find variant scope d₁ = .ok handle d₂ → Runs oneSession d₂ d →
      d.Instance scope variant handle) ∧
    (∀ {scope variant handle}, d.Instance scope variant handle →
      (d.Live handle ↔
        d.Placed scope variant handle ∨ LeftBehind (opened d₀ ring settings) d handle)) ∧
    (∀ {scope variant i j}, d.Instance scope variant i → d.Instance scope variant j →
      d.Live i → d.Live j → i = j ∨ LeftBehind (opened d₀ ring settings) d i ∨
        LeftBehind (opened d₀ ring settings) d j) ∧
    ∀ {group variant handle d'}, d.Instance (.group group) variant handle →
      removeGroup group d = .ok () d' →
      (d'.Rejects (.group group) handle ↔ ¬ LeftBehind (opened d₀ ring settings) d handle) := by
  have start := tidy_opened d₀ ring settings
  have tidy := run.tidy start
  -- at the start nothing is stray, so stray is what this session left behind
  have stray_iff {handle : Handle} :
      d.Stray handle ↔ LeftBehind (opened d₀ ring settings) d handle :=
    run.stray_iff start (not_stray_opened _ _ _)
  have live_iff {scope : Scope} {variant : Variant} {handle : Handle}
      (isOf : d.Instance scope variant handle) : d.Live handle ↔
        d.Placed scope variant handle ∨ LeftBehind (opened d₀ ring settings) d handle := by
    rw [← stray_iff]
    constructor
    · -- a live instance is in a slot, and then in its own, or it is stray
      intro live
      by_cases used : d.InUse handle
      · exact .inl (isOf.placed tidy used)
      · exact .inr ⟨live, used⟩
    · rintro (placed | stray)
      · exact (placed.isInstance tidy).2
      · exact stray.1
  refine ⟨?_, live_iff, ?_, ?_⟩
  · -- a handle that was given stands for an object of the scope and variant from then on
    intro scope variant handle d₁ d₂ before found after
    have tidy₁ := before.tidy start
    have finds : Does .work (fun _ => True) (find variant scope) fun handle d =>
      d.Placed scope variant handle := does_find (by trivial) variant scope
    have chain := finds.chain tidy₁ trivial
    rw [stateAfter_of_ok found] at chain
    have placed := finds.post tidy₁ trivial found
    exact (placed.isInstance (chain.tidy tidy₁)).1.runs (chain.tidy tidy₁) after
  · intro scope variant i j first second liveFirst liveSecond
    rcases (live_iff first).mp liveFirst with here | left
    · rcases (live_iff second).mp liveSecond with also | left
      · -- a slot holds one handle
        exact .inl (Option.some.inj (here.symm.trans also))
      · -- of two that are not both in the slot one was left behind
        exact .inr (.inr left)
    · exact .inr (.inl left)
  · intro group variant handle d' isOf removed
    have operation : Operation (.remove group) (removeGroup group) := .removeGroup group
    have chain := operation.chain tidy
    have after : (stateAfter (removeGroup group) d).Stray handle ↔ _ := stray_removeGroup tidy
    have vacant := (gone_of_removeGroup tidy removed).2.2.2
    rw [stateAfter_of_ok removed] at chain after
    have isOf' : d'.Instance (.group group) variant handle :=
      chain.keeps (fun effect before => Instance.effect before effect) isOf
    -- after the removal a live object of the group is in no slot, and this removal leaves none
    have none : ¬ d.LeavesBehind group handle := by
      rintro ⟨-, -, -, -, _, _, -, -, -, failed, -⟩
      cases removed.symm.trans failed
    rw [or_iff_left none, stray_iff] at after
    rw [isOf'.rejects_iff, ← after, not_iff_not]
    refine ⟨fun live => ⟨live, fun used => ?_⟩, And.left⟩
    exact vacant variant handle (isOf'.placed (chain.tidy tidy) used)

/-- A new session over a store that refuses the first deletion of a row of a group. -/
def refusingOnce : Device :=
  opened { fresh 5 with store := { fault } } fresh.ring {}
where
  /-- The first deletion is refused. -/
  fault (past : List Access) (step : Access) : Option String :=
    if step = .delete ((Scope.group someGroup).cell .groupInfo) ∧ step ∉ past then
      some "disk full"
    else none

/-- An object is asked for, left behind by a removal that fails, and asked for again. After a
removal that succeeds the second instance rejects what it is given, and the first does not. -/
theorem one_live_instance_refused :
    ∃ d d' : Device, Runs oneSession refusingOnce d ∧
      d.Instance (.group someGroup) .groupMembers 0 ∧
      d.Instance (.group someGroup) .groupMembers 1 ∧ d.Live 0 ∧ d.Live 1 ∧
      removeGroup someGroup d = .ok () d' ∧
      ¬ d'.Rejects (.group someGroup) 0 ∧ d'.Rejects (.group someGroup) 1 := by
  let look := find .groupMembers (.group someGroup)
  let remove := removeGroup someGroup
  let d₁ := stateAfter look refusingOnce
  let d₂ := stateAfter remove d₁
  let d₃ := stateAfter look d₂
  have run₁ : Runs oneSession refusingOnce d₁ := (Runs.refl _).find trivial
  have run₂ : Runs oneSession refusingOnce d₂ := run₁.act (.removeGroup someGroup) trivial
  have run : Runs oneSession refusingOnce d₃ := run₂.find trivial
  have rest : Runs oneSession d₂ d₃ := (Runs.refl d₂).find trivial
  -- both lookups succeed, and so does the second removal
  have first : look refusingOnce = .ok 0 d₁ := ok_of_yields (by decide +kernel)
  have second : look d₂ = .ok 1 d₃ := ok_of_yields (by decide +kernel)
  have removed : remove d₃ = .ok () (stateAfter remove d₃) := ok_of_yields (by decide +kernel)
  have placed₀ : (d₁.session.slot (.group someGroup))[Variant.groupMembers]? = some 0 := by
    decide +kernel
  have placed₁ : (d₃.session.slot (.group someGroup))[Variant.groupMembers]? = some 1 := by
    decide +kernel
  have last : d₂.store.past.head? = some (.delete ((Scope.group someGroup).cell .groupInfo)) := by
    decide +kernel
  -- the row of the first variant was refused while the object's turn had not come
  have left : LeftBehind refusingOnce d₃ 0 := by
    obtain ⟨error, failed⟩ : ∃ error, remove d₁ = .error error d₂ :=
      exists_error_of_yields (by decide +kernel)
    exact ⟨d₁, someGroup, run₁, ⟨[], .groupInfo, [.groupMembers, .groupKeys], .groupMembers,
      error, d₂, rfl, List.mem_cons_self, placed₀, failed, last⟩, rest⟩
  -- the second object is in its slot, so it was not left behind
  have inSlot : ¬ LeftBehind refusingOnce d₃ 1 := by
    intro left
    exact ((run.stray_iff (tidy_opened _ _ _) (not_stray_opened _ _ _)).mpr left).2
      ⟨_, _, placed₁⟩
  obtain ⟨given, live, -, rejects⟩ := one_live_instance run
  have instance₀ : d₃.Instance (.group someGroup) .groupMembers 0 :=
    given (.refl _) first (((Runs.refl d₁).act (.removeGroup someGroup) trivial).trans rest)
  have instance₁ : d₃.Instance (.group someGroup) .groupMembers 1 := given run₂ second (.refl _)
  exact ⟨d₃, _, run, instance₀, instance₁, (live instance₀).mpr (.inr left),
    (live instance₁).mpr (.inl placed₁), removed, fun no => (rejects instance₀ removed).mp no left,
    (rejects instance₁ removed).mpr inSlot⟩

/-- **Two live instances.** A removal fails, as the store refuses to delete the row of one variant.
The object of another that was given before stays live, and who asks for it gets another one that
is live as well. A second removal succeeds, and the first object still takes an edit. -/
theorem two_live_instances :
    ∃ d₁ d₂ d₃ d₄ d₅ : Device, find .groupMembers (.group someGroup) refusingOnce = .ok 0 d₁ ∧
      (∃ error, removeGroup someGroup d₁ = .error error d₂) ∧
      find .groupMembers (.group someGroup) d₂ = .ok 1 d₃ ∧ d₃.Live 0 ∧ d₃.Live 1 ∧
      removeGroup someGroup d₃ = .ok () d₄ ∧
      ∃ result, editObject 0 6 (EditM.set "members" "x" "1") d₄ = .ok result d₅ := by
  let look := find .groupMembers (.group someGroup)
  let remove := removeGroup someGroup
  let d₁ := stateAfter look refusingOnce
  let d₂ := stateAfter remove d₁
  let d₃ := stateAfter look d₂
  let d₄ := stateAfter remove d₃
  let edit := editObject 0 6 (EditM.set "members" "x" "1")
  -- of all five runs only what they answer is asked, and the kernel computes that
  have taken : yields edit d₄ (·.1) = true := by decide +kernel
  have live₀ : (d₃.session.object 0).destroyed = false := by decide +kernel
  have live₁ : (d₃.session.object 1).destroyed = false := by decide +kernel
  obtain ⟨result, edited, -⟩ := exists_of_yields taken
  exact ⟨d₁, d₂, d₃, d₄, stateAfter edit d₄, ok_of_yields (by decide +kernel),
    exists_error_of_yields (by decide +kernel), ok_of_yields (by decide +kernel), live₀, live₁,
    ok_of_yields (by decide +kernel), result, edited⟩

end Device

end ConfigReplica
