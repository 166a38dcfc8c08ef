import ConfigReplica.Proofs.Object.Acknowledgement
import ConfigReplica.Proofs.Session.Removal

/-!
# Acknowledgements of an earlier life

When a group is removed its objects end, and when it is rejoined they begin anew, with
their revisions counted from zero. An acknowledgement names an object by its scope and
variant and a revision by its number, so one that is still under way when the group is
removed reaches the object that has the name later.

`Device.late_acknowledgement_iff` says what becomes of it. The object it reaches has a
life of its own, in which nothing was acknowledged. The acknowledgement leaves it alone
exactly if its number is greater than all revisions of that life. A smaller one is taken
for a hash of this life, and the one that is the present revision makes the object clean
although nobody was told of it: `Device.late_acknowledgement_taken` is a run in which
this happens.

The invariant is `Device.Anew`: objects and rows of the group belong to lives that began
after the removal. It holds right after the removal, since there are none.
-/

namespace ConfigReplica

open Config SessionM

namespace Config.Object

variable {variant : Variant} {scope : Scope} {origin : UInt64} {o o' o₀ : Object} {h : History}
  {deed : Deed}

/-- An object keeps its scope. -/
theorem Reached.scope_eq (life : Reached variant scope origin o h) : o.scope = scope := by
  -- the induction is on the life; no step touches the scope
  induction life with
  | start => rfl
  | next past step ih =>
    rw [← ih]
    cases step with
    | edit plan now entropy ran =>
      rw [edit_cases ran]
      unfold revise
      split <;> rfl
    | merge accepted =>
      rcases merge_cases accepted with ⟨-, rfl⟩ | ⟨s, -, rfl⟩ <;> rfl
    | refuse refused => rfl
    | remember memory => rfl
    | push => rfl
    | confirm known hash =>
      unfold Object.confirm
      split <;> rfl
    | reload loaded =>
      obtain rfl := reload_eq loaded
      rfl

/-! ### The mark for storing -/

/-- The object with another mark for storing. -/
def marked (o : Object) (needsDump : Bool) : Object :=
  { o with needsDump }

/-- The mark for storing makes no difference to an edit. -/
theorem edit_marked {α : Type} {now : Int64} {entropy : Entropy} {step : EditM α}
    {done : Edited α} (ran : o.edit now entropy step = .ok done) (mark : Bool) :
    ∃ mark', (o.marked mark).edit now entropy step =
      .ok { done with object := done.object.marked mark' } := by
  -- revising sets the mark exactly if the state changes, whatever it was before
  have revised (s : State) : ∃ mark', (o.marked mark).revise s = (o.revise s).marked mark' := by
    by_cases same : s = o.state
    · have same' : s = (o.marked mark).state := same
      exact ⟨mark, by rw [revise_of_eq same, revise_of_eq same']⟩
    · have differs' : s ≠ (o.marked mark).state := same
      exact ⟨true, by rw [revise_of_ne same, revise_of_ne differs']; rfl⟩
  have ended (s : State) (entropy : Entropy) (result : Except Error α) : ∃ mark',
      (.ok ⟨(o.marked mark).revise s, entropy, result⟩ : Except Error (Edited α)) =
        .ok ⟨(o.revise s).marked mark', entropy, result⟩ :=
    (revised s).imp fun mark' same => by rw [same]
  have draft : (o.marked mark).draft now entropy = o.draft now entropy := rfl
  -- both edits start from one draft, so they come to one state, or to one error
  unfold Object.edit at ran ⊢
  split at ran
  · cases ran
  · next live =>
    rw [if_neg (show ¬ (o.marked mark).destroyed = true from live), draft]
    cases left : step (o.draft now entropy) with
    | ok x d =>
      rw [left] at ran
      obtain rfl := Except.ok.inj ran
      exact ended d.state d.entropy (.ok x)
    | error error d =>
      rw [left] at ran
      obtain rfl := Except.ok.inj ran
      exact ended d.state d.entropy (.error error)

/-- The mark for storing makes no difference to a merge. -/
theorem merge_marked {id : String} {data : Bytes} {changed : Bool}
    (accepted : o.merge id data = .ok (changed, o')) (mark : Bool) :
    ∃ mark', (o.marked mark).merge id data = .ok (changed, o'.marked mark') := by
  have read : (o.marked mark).readUpdate data = o.readUpdate data := readUpdate_congr rfl data
  -- what an update says, and whether it is known, does not depend on the mark
  have knows : (o.marked mark).hasMerged id = o.hasMerged id := rfl
  unfold Object.merge at accepted ⊢
  split at accepted
  · cases accepted
  · next live =>
    rw [if_neg (show ¬ (o.marked mark).destroyed = true from live), knows, read]
    split at accepted
    · next remembered =>
      obtain ⟨rfl, rfl⟩ := Prod.mk.inj (Except.ok.inj accepted)
      exact ⟨mark, if_pos remembered⟩
    · next unknown =>
      rw [if_neg unknown]
      cases carried : o.readUpdate data with
      | error reason =>
        rw [carried] at accepted
        cases accepted
      | ok s =>
        rw [carried] at accepted
        obtain ⟨rfl, rfl⟩ := Prod.mk.inj (Except.ok.inj accepted)
        exact ⟨true, rfl⟩

/-! ### Lives without acknowledgements -/

/-- **Nothing was acknowledged** in the life of an object, which is followed up to the mark for
storing. -/
def Untold (variant : Variant) (scope : Scope) (o : Object) (h : History) : Prop :=
  (∃ mark, Reached variant scope o.origin (o.marked mark) h) ∧ h.acknowledged = []

/-- A blank object begins a life in which nothing was acknowledged. -/
theorem Untold.start (memory : Nat) :
    Untold variant scope ((blank variant scope origin).withMemory memory) {} :=
  ⟨⟨false, .next .start (.remember memory)⟩, rfl⟩

/-- Storing is not part of what is followed. -/
theorem Untold.markDumped (untold : Untold variant scope o h) :
    Untold variant scope o.markDumped h :=
  untold

/-- Edits and merges go on with a life. -/
theorem Untold.change (untold : Untold variant scope o h) (change : Change deed o o')
    (told : deed ≠ .confirm o.scope) : ∃ h', Untold variant scope o' h' := by
  obtain ⟨⟨mark, life⟩, unacknowledged⟩ := untold
  have origin := change.keeps.2.2.1
  cases change with
  -- the same edit, made of the marked object, goes on with the life
  | edit plan time entropy ran =>
    obtain ⟨mark', ran'⟩ := edit_marked ran mark
    rw [← origin] at life
    exact ⟨_, ⟨mark', .next life (.edit plan time entropy ran')⟩, unacknowledged⟩
  | merge accepted =>
    obtain ⟨mark', accepted'⟩ := merge_marked accepted mark
    rw [← origin] at life
    exact ⟨_, ⟨mark', .next life (.merge accepted')⟩, unacknowledged⟩
  | confirm seqno hash => exact absurd rfl told

/-- Storing and loading go on with a life. -/
theorem Untold.load (untold : Untold variant scope o h)
    (loaded : Object.load variant scope o.dump = .ok o') (memory : Nat) :
    Untold variant scope (o'.withMemory memory) h := by
  obtain ⟨⟨mark, life⟩, unacknowledged⟩ := untold
  -- the row was written of the object as it is, which differs from the life by the mark only
  have loaded' : Object.load (o.marked mark).variant (o.marked mark).scope (o.marked mark).dump =
      .ok o' := by
    rw [life.variant_eq, life.scope_eq]
    exact loaded
  have restored := reload_eq loaded'
  have origin : (o'.withMemory memory).origin = o.origin := by
    rw [restored]
    rfl
  refine ⟨⟨false, ?_⟩, unacknowledged⟩
  rw [origin]
  have again : (o'.withMemory memory).marked false = o'.withMemory memory := by
    rw [restored]
    rfl
  rw [again]
  exact .next (.next life (.reload loaded')) (.remember memory)

/-- Hashes come from acknowledgements. -/
theorem Reached.currentHashes_eq (life : Reached variant scope origin o h)
    -- the induction is on the life: only an acknowledgement puts a hash there
    (unacknowledged : h.acknowledged = []) : o.currentHashes = [] := by
  induction life with
  | start => rfl
  | next past step ih =>
    cases step with
    | edit plan now entropy ran =>
      rw [edit_cases ran]
      unfold revise
      split <;> exact ih unacknowledged
    | merge accepted =>
      rcases merge_cases accepted with ⟨-, rfl⟩ | ⟨s, -, rfl⟩ <;> exact ih unacknowledged
    | refuse refused => exact ih unacknowledged
    | remember memory => exact ih unacknowledged
    | push => exact ih unacknowledged
    -- an acknowledgement would stand in the history, which has none
    | confirm known hash => simp [History.confirmed] at unacknowledged
    | reload loaded =>
      obtain rfl := reload_eq loaded
      exact ih unacknowledged

/-- In a life without acknowledgements the object counts its revisions, has no hash, and is not
clean once there is a revision. -/
theorem Untold.account (untold : Untold variant scope o h) :
    o.seqno = UInt64.ofNat h.revisions ∧ o.currentHashes = [] ∧
      (h.revisions < UInt64.size → o.dirty = false → h.revisions = 0) := by
  obtain ⟨⟨mark, life⟩, unacknowledged⟩ := untold
  have accounted := life.accounted
  refine ⟨accounted.seqno, life.currentHashes_eq unacknowledged, fun few clean => ?_⟩
  -- a clean object has no revision, or an acknowledged state
  rcases accounted.clean few clean with none | ⟨s, mem, -⟩
  · exact none
  · rw [unacknowledged] at mem
    exact absurd mem List.not_mem_nil

end Config.Object

namespace Device

variable {deed : Deed} {d d' : Device} {group : GroupId}

/-- **The group began anew**: its objects and rows belong to lives without acknowledgements. What
is loaded from a row is what was written, as the row is short enough to be read, unless the object
is in memory already. -/
structure Anew (group : GroupId) (d : Device) : Prop where
  placed : ∀ variant handle, d.Placed (.group group) variant handle →
    ∃ h, Object.Untold variant (.group group) (d.session.object handle) h
  rows : ∀ variant bytes, (Scope.group group).admits variant = true →
    d.store.row? ((Scope.group group).cell variant) = some bytes →
    (∃ time o h, bytes = StoredObject.codec.write { time, dump := o.dump } ∧
      Object.Untold variant (.group group) o h) ∧
    (bytes.length < UInt64.size ∨ ∃ handle, d.Placed (.group group) variant handle)

/-- Effects that leave the objects of the group and their rows alone. -/
theorem Anew.of_kept (anew : Anew group d)
    (objects : ∀ variant handle, d'.Placed (.group group) variant handle →
      d.Placed (.group group) variant handle ∧
        d'.session.object handle = d.session.object handle)
    (places : ∀ variant handle, d.Placed (.group group) variant handle →
      d'.Placed (.group group) variant handle)
    (rows : ∀ variant bytes, d'.store.row? ((Scope.group group).cell variant) = some bytes →
      d.store.row? ((Scope.group group).cell variant) = some bytes) : Anew group d' where
  placed variant handle placed := by
    obtain ⟨before, object⟩ := objects variant handle placed
    rw [object]
    exact anew.placed variant handle before
  rows variant bytes admitted row := by
    -- a row too long to be read goes with an object in memory, and places are kept
    obtain ⟨written, short | ⟨handle, placed⟩⟩ :=
      anew.rows variant bytes admitted (rows variant bytes row)
    · exact ⟨written, .inl short⟩
    · exact ⟨written, .inr ⟨handle, places variant handle placed⟩⟩

/-- A new object of the group begins its life, or goes on with it from its row. -/
theorem Anew.adopted (anew : Anew group d) (tidy : d.Tidy) {scope : Scope} {variant : Variant}
    {o : Object} (admitted : scope.admits variant = true)
    (free : (d.session.slot scope)[variant]? = none) (loads : d.Loads scope variant o) :
    Anew group (d.adopt scope variant o) := by
  have begins (mine : scope = .group group) : ∃ h, Object.Untold variant (.group group) o h := by
    subst mine
    unfold Loads at loads
    -- with no row the life begins, with a row it goes on
    split at loads
    · obtain ⟨origin, rfl⟩ := loads
      exact ⟨_, Object.Untold.start _⟩
    · -- what is read from the row is what was written, since the slot is free
      next bytes row =>
      obtain ⟨stored, p, decoded, loaded, rfl⟩ := loads
      obtain ⟨⟨time, o, h, rfl, untold⟩, short | ⟨handle, placed⟩⟩ := anew.rows _ _ admitted row
      · have read := Codec.decode_write StoredObject.faithful_codec { time, dump := o.dump } short
        obtain rfl := Except.ok.inj (decoded.symm.trans read)
        exact ⟨h, untold.load loaded _⟩
      · rw [Placed, free] at placed
        cases placed
  refine ⟨?_, ?_⟩
  · intro v handle placed
    -- the new object has the next handle, and all others had theirs before
    rw [placed_adopt] at placed
    rw [object_adopt]
    split at placed
    · next here =>
      rw [if_pos placed, here.2]
      exact begins here.1.symm
    · rw [if_neg (Nat.ne_of_lt (tidy _ v handle placed).1)]
      exact anew.placed v handle placed
  · -- no row is touched
    intro v bytes admitted' row
    obtain ⟨written, short | ⟨handle, placed⟩⟩ := anew.rows v bytes admitted' row
    · exact ⟨written, .inl short⟩
    · exact ⟨written, .inr ⟨handle, placed.adopt free o⟩⟩

/-- An object of the group goes on with its life when it changes, unless an acknowledgement for the
group is taken note of. -/
theorem Anew.changed (anew : Anew group d) (tidy : d.Tidy) {handle : Handle} {o : Object}
    (change : Object.Change deed (d.session.object handle) o)
    (told : deed ≠ .confirm (.group group)) : Anew group (d.setObject handle o) := by
  -- only the object under the handle changes, and it has the scope and variant of its slot
  refine ⟨fun variant i placed => ?_, anew.rows⟩
  rw [object_setObject]
  split
  · next here =>
    obtain ⟨rfl, -⟩ := here
    obtain ⟨h, untold⟩ := anew.placed variant i placed
    refine untold.change change ?_
    rw [(tidy _ variant i placed).2.2.1]
    exact told
  · exact anew.placed variant i placed

/-- An object of the group is stored with its life. -/
theorem Anew.stored (anew : Anew group d) (tidy : d.Tidy) {scope : Scope} {variant : Variant}
    {handle : Handle} (placed : d.Placed scope variant handle) (time : Int64) :
    Anew group (d.saved handle time) := by
  obtain ⟨known, -, hasScope, hasVariant, -⟩ := tidy scope variant handle placed
  refine ⟨?_, ?_⟩
  · intro v i placed'
    -- a stored object differs from what it was by the mark, which the life does not follow
    obtain ⟨h, untold⟩ := anew.placed v i placed'
    rw [object_saved known]
    split
    · next same =>
      rw [same] at untold
      exact ⟨h, untold.markDumped⟩
    · exact ⟨h, untold⟩
  · intro v bytes admitted row
    rw [row?_saved] at row
    split at row
    · next cells =>
      -- the row is of the object that was stored, which is in memory
      obtain ⟨sameScope, sameVariant⟩ := Scope.cell_inj cells
      rw [← sameScope] at hasScope
      rw [← sameVariant] at hasVariant
      subst hasScope hasVariant
      obtain ⟨h, untold⟩ := anew.placed _ handle placed
      exact ⟨⟨time, _, h, (Option.some.inj row).symm, untold⟩, .inr ⟨handle, placed⟩⟩
    · exact anew.rows v bytes admitted row

/-- **Every effect keeps the group anew**, unless it is removed again or wiped, or an
acknowledgement for it is taken note of. -/
theorem Effect.anew (effect : Effect deed d d') (tidy : d.Tidy) (removes : deed ≠ .remove group)
    (wipes : deed ≠ .wipe) (told : deed ≠ .confirm (.group group)) (anew : Anew group d) :
    Anew group d' := by
  cases effect with
  -- effects on objects of the group have their lemmas, and the others touch neither objects nor
  -- rows
  | adopted handles isOpen admitted free loads => exact anew.adopted tidy admitted free loads
  | changed handles change => exact anew.changed tidy change told
  | stored stores object placed time live present =>
    subst object
    exact anew.stored tidy placed time
  | aside same =>
    refine anew.of_kept
      (fun variant handle placed => ⟨same.placed_iff.mp placed, same.object handle⟩)
      -- rows of marks and of watermarks stand in other tables
      (fun variant handle => same.placed_iff.mpr) fun variant bytes row => ?_
    · unfold Store.row? at row ⊢
      rwa [same.rows] at row
  | touched handles scope isOpen =>
    exact anew.of_kept (fun _ _ placed => ⟨(placed_touch _ _ _ _ _).mp placed, rfl⟩)
      (fun _ _ placed => (placed_touch _ _ _ _ _).mpr placed) fun _ _ => id
  | markSaved change known =>
    refine anew.of_kept (fun _ _ placed => ⟨placed, rfl⟩) (fun _ _ => id) fun v bytes row => ?_
    rwa [row?_setRow, if_neg (by simp [RemovalMarks.cell, Scope.cell])] at row
  | watermarkSaved v bytes =>
    refine anew.of_kept (fun _ _ placed => ⟨placed, rfl⟩) (fun _ _ => id) fun v bytes row => ?_
    rwa [row?_setRow, if_neg (by simp [Scope.cell])] at row
  -- of another group: taking its slot away leaves the slot of this one
  | evicted other =>
    refine anew.of_kept (fun _ _ placed => ⟨placed_of_evicted placed, rfl⟩)
      (fun variant handle placed => ?_) fun _ _ => id
    have differs : Scope.group group ≠ .group other := fun same =>
      removes (congrArg Deed.remove (Scope.group.inj same).symm)
    unfold Placed
    rw [Session.slot_erase, if_neg differs]
    exact placed
  -- an object is destroyed when no slot has it any more, so it is none of the group
  | destroyed loose =>
    refine anew.of_kept (fun variant handle placed => ⟨placed, ?_⟩) (fun _ _ => id) fun _ _ => id
    rw [object_setObject, if_neg]
    rintro ⟨rfl, -⟩
    exact loose _ _ placed
  -- a deleted row is one row less to speak of
  | rowDeleted v mine vacant =>
    refine anew.of_kept (fun _ _ placed => ⟨placed, rfl⟩) (fun _ _ => id) fun v bytes row => ?_
    rw [row?_eraseRow] at row
    split at row
    · cases row
    · exact row
  | cleared objects => exact absurd rfl wipes
  | otherDeleted other => exact absurd rfl wipes
  | forgot => exact absurd rfl wipes
  | recalled unread stored =>
    exact anew.of_kept (fun _ _ placed => ⟨placed, rfl⟩) (fun _ _ => id) fun _ _ => id
  | remarked change known =>
    exact anew.of_kept (fun _ _ placed => ⟨placed, rfl⟩) (fun _ _ => id) fun _ _ => id
  | closed mine =>
    exact anew.of_kept (fun _ _ placed => ⟨placed, rfl⟩) (fun _ _ => id) fun _ _ => id

/-- What a run is held to while a group lives anew: it is not removed again and the store is not
wiped, no acknowledgement for it is taken note of, and a session is opened again only where the
rows of the group can be read. -/
def unacknowledged (group : GroupId) : Terms where
  deed _ deed := deed ≠ .remove group ∧ deed ≠ .wipe ∧ deed ≠ .confirm (.group group)
  reopen d := ∀ variant, ∀ bytes ∈ d.store.row? ((Scope.group group).cell variant),
    bytes.length < UInt64.size

/-- While no acknowledgement for the group is taken note of it lives anew. -/
theorem Anew.runs (anew : Anew group d) (tidy : d.Tidy) (run : Runs (unacknowledged group) d d') :
    d'.Tidy ∧ Anew group d' := by
  refine run.keeps tidy ?_ ?_ ?_ anew
  · rintro d d' deed ⟨removes, wipes, told⟩ tidy effect anew
    exact effect.anew tidy removes wipes told anew
  · -- the clock is no part of it
    intro d clock _ anew
    exact ⟨anew.placed, anew.rows⟩
  · -- a session that is opened again has no objects, and finds rows that it can read
    intro d ring settings short anew
    refine ⟨?_, fun variant bytes admitted row => ?_⟩
    · intro variant handle placed
      simp [Placed, Session.slot, opened] at placed
    · exact ⟨(anew.rows variant bytes admitted row).1, .inl (short variant bytes row)⟩

/-- A removal that succeeds leaves nothing of the group, so that it begins anew. -/
theorem anew_of_removeGroup {d₀ d₁ : Device} (tidy : d₀.Tidy)
    (removed : removeGroup group d₀ = .ok () d₁) : d₁.Tidy ∧ Anew group d₁ := by
  obtain ⟨tidy, gone, -, vacant⟩ := gone_of_removeGroup tidy removed
  refine ⟨tidy, fun variant handle placed => absurd placed (vacant variant handle), ?_⟩
  intro variant bytes admitted row
  have none : d₁.store.row? ((Scope.group group).cell variant) = none :=
    gone.unstored variant (Scope.mem_variants.mpr admitted)
  rw [none] at row
  cases row

/-! ### The mark after a rejoin -/

/-- The marks are in memory, and there is none of the group. -/
def Unmarked (group : GroupId) (d : Device) : Prop :=
  ∃ marks : RemovalMarks, d.session.removed = some marks ∧ marks[group]? = none

/-- Without another removal the group stays unmarked. -/
theorem Effect.unmarked (effect : Effect deed d d') (removes : deed ≠ .remove group)
    (unmarked : Unmarked group d) : Unmarked group d' := by
  obtain ⟨marks, known, none⟩ := unmarked
  -- only marks that are changed have to be looked at, for reading happens to unread marks only
  cases effect with
  | aside same => exact ⟨marks, same.removed.trans known, none⟩
  | recalled unread stored => exact absurd (unread.symm.trans known) (by simp)
  | @remarked _ _ before f change known' =>
    obtain rfl := Option.some.inj (known'.symm.trans known)
    refine ⟨_, rfl, ?_⟩
    -- a removal sets the mark of another group, a rejoin takes one away
    have changed : (f before)[group]? = Option.none := by
      cases change with
      | remove other =>
        have differs : other ≠ group := fun same => removes (congrArg Deed.remove same)
        simp [Std.ExtTreeMap.getElem?_insert, differs, none]
      | rejoin other => simp [Std.ExtTreeMap.getElem?_erase, none]
    rw [Std.ExtTreeMap.getElem?_filter, changed]
    rfl
  | forgot => exact ⟨∅, rfl, by simp⟩
  | _ => exact ⟨marks, known, none⟩

/-- Marks of which that of the group was taken away. -/
theorem unmarked_of_erased {before : RemovalMarks} {stands : GroupId → Int64 → Bool}
    (known : d.session.removed = some ((before.erase group).filter stands)) :
    Unmarked group d := by
  refine ⟨_, known, ?_⟩
  rw [Std.ExtTreeMap.getElem?_filter', Std.ExtTreeMap.getElem?_erase_self]
  rfl

/-- A rejoin that succeeds leaves the group unmarked. -/
theorem unmarked_of_rejoinGroup (tidy : d.Tidy) (rejoined : rejoinGroup group d = .ok () d') :
    Unmarked group d' := by
  obtain ⟨before, known, -⟩ := (does_updateMarks (.rejoin group)).post tidy rfl rejoined
  exact unmarked_of_erased known

/-! ### What an acknowledgement does -/

/-- The check of a group that is not marked passes. -/
theorem checkPresent_of_unmarked (unmarked : Unmarked group d) :
    checkPresent (.group group) d = .ok () d := by
  obtain ⟨marks, known, none⟩ := unmarked
  rw [checkPresent_of_marks (marks_of_known known), none]
  rfl

/-- An acknowledgement for an object in use, when the session is open and the group unmarked, is
taken note of, whether the object can be stored then or not. -/
theorem confirm_placed (tidy : d.Tidy) (isOpen : d.session.closed = false)
    (unmarked : Unmarked group d) {variant : Variant} {handle : Handle}
    (placed : d.Placed (.group group) variant handle) (seqno : UInt64) (hash : String) :
    ((stateAfter (confirm variant (.group group) seqno hash) d).session.object handle).markDumped =
      ((d.session.object handle).confirm seqno hash).markDumped := by
  obtain ⟨known, admitted, -, -, live⟩ := tidy _ variant handle placed
  let o := (d.session.object handle).confirm seqno hash
  let d₁ := d.setObject handle o
  have change : Object.Change (.confirm _) (d.session.object handle) o := .confirm seqno hash
  obtain ⟨hasVariant, hasScope, -, -, destroyed⟩ := change.keeps
  have tidy₁ : d₁.Tidy := tidy.setObject hasVariant hasScope destroyed
  -- after the checks the object is changed and then stored, which may fail
  have ran : confirm variant (.group group) seqno hash d =
      (persistObject handle d₁.clock >>= fun _ => pure (!o.dirty)) d₁ := by
    have looks : object handle d = .ok (d.session.object handle) d := rfl
    unfold confirm
    rw [bind_of_ok (checkPresent_of_unmarked unmarked),
      bind_of_ok (find_of_placed isOpen admitted placed), bind_of_ok looks, if_neg (by simp [live])]
    rfl
  have after : stateAfter (confirm variant (.group group) seqno hash) d =
      stateAfter (persistObject handle d₁.clock) d₁ := by
    unfold stateAfter
    rw [ran]
    cases stored : persistObject handle d₁.clock d₁ with
    | ok x d₂ => rw [bind_of_ok stored]; rfl
    | error error d₂ => rw [bind_of_error stored]
  -- storing changes no more of the object than its mark, however it ends
  have stores : Does .store (fun d => d.Placed (.group group) variant handle)
      (persistObject handle d₁.clock) _ := does_persistObject (by trivial) handle d₁.clock
  have kept : ((stateAfter (persistObject handle d₁.clock) d₁).session.object handle).markDumped =
      (d₁.session.object handle).markDumped :=
    (stores.chain tidy₁ placed).keeps (fun effect same =>
      (effect.stored_only.2 handle).1.trans same) rfl
  rw [after, kept, object_setObject, if_pos ⟨rfl, known⟩]

/-! ### The theorem -/

/-- **What becomes of a late acknowledgement.** A group is removed and rejoined, and whatever else
happens, no acknowledgement for it is taken note of. An object of the group has a life of its own
then, in which nothing was acknowledged. An acknowledgement leaves it alone exactly if it is for a
later revision than the object has; otherwise its hash is taken for one of this life, and if its
number is that of the present revision the object is clean. -/
theorem late_acknowledgement_iff {d₀ d₁ d₂ d₃ : Device} (reached : d₀.Reached)
    (removed : removeGroup group d₀ = .ok () d₁) (between : Runs (unacknowledged group) d₁ d₂)
    (rejoined : rejoinGroup group d₂ = .ok () d₃)
    (after : Runs { unacknowledged group with reopen := fun _ => False } d₃ d)
    (isOpen : d.session.closed = false) {variant : Variant} {handle : Handle}
    (placed : d.Placed (.group group) variant handle) :
    (∃ h, Object.Untold variant (.group group) (d.session.object handle) h ∧
      (d.session.object handle).seqno = UInt64.ofNat h.revisions ∧
      (h.revisions < UInt64.size → (d.session.object handle).dirty = false → h.revisions = 0)) ∧
    ∀ seqno hash,
      let o := d.session.object handle
      let o' := (stateAfter (confirm variant (.group group) seqno hash) d).session.object handle
      (o'.dirty = o.dirty ∧ o'.currentHashes = o.currentHashes ↔ o.seqno < seqno) ∧
      (¬ o.seqno < seqno → o'.currentHashes = [hash]) ∧
      (seqno = o.seqno → o'.dirty = false) := by
  have rejoins : Runs (unacknowledged group) d₂ d₃ := by
    rw [← stateAfter_of_ok rejoined]
    exact .act (.refl d₂) (.rejoinGroup group) ⟨by simp, by simp, by simp⟩
  have goesOn : Runs (unacknowledged group) d₃ d := after.relax id id False.elim
  -- the removal leaves nothing of the group, and the lives begin after it
  obtain ⟨tidy₁, anew₁⟩ := anew_of_removeGroup reached.tidy removed
  have tidy₂ := between.tidy tidy₁
  obtain ⟨tidy, anew⟩ := anew₁.runs tidy₁ ((between.trans rejoins).trans goesOn)
  -- the rejoin took the mark away, and no other session reads an older one
  have unmarked : Unmarked group d :=
    (after.keeps (rejoins.tidy tidy₂) (fun allowed _ effect => effect.unmarked allowed.1)
      (fun _ => id) (fun allowed => allowed.elim) (unmarked_of_rejoinGroup tidy₂ rejoined)).2
  obtain ⟨h, untold⟩ := anew.placed variant handle placed
  obtain ⟨counts, noHash, clean⟩ := untold.account
  refine ⟨⟨h, untold, counts, clean⟩, fun seqno hash => ?_⟩
  intro o o'
  have taken := confirm_placed tidy isOpen unmarked placed seqno hash
  have dirty := congrArg Object.dirty taken
  have hashes := congrArg Object.currentHashes taken
  change o'.dirty = (o.confirm seqno hash).dirty at dirty
  change o'.currentHashes = (o.confirm seqno hash).currentHashes at hashes
  have known : ¬ o.seqno < seqno → (o.confirm seqno hash).currentHashes = [hash] := by
    intro known
    unfold Object.confirm
    rw [if_neg known]
  refine ⟨⟨fun ⟨_, same⟩ => ?_, fun later => ?_⟩, fun present => hashes.trans (known present), ?_⟩
  -- an object that was told nothing has no hash, so taking one shows
  · by_contra present
    rw [hashes, known present, noHash] at same
    cases same
  · have unchanged : o.confirm seqno hash = o := if_pos later
    rw [dirty, hashes, unchanged]
    exact ⟨rfl, rfl⟩
  · rintro rfl
    rw [dirty, Object.dirty_confirm, if_pos rfl]

/-- An object that was edited once since its group was rejoined takes the hash of any
acknowledgement of a first revision. -/
theorem late_acknowledgement_iff_first :
    ∃ d : Device, d.Placed (.group someGroup) .groupInfo 0 ∧ (d.session.object 0).seqno = 1 ∧
      ∀ hash, ((stateAfter (confirm .groupInfo (.group someGroup) 1 hash) d).session.object
        0).currentHashes = [hash] := by
  let d₁ := stateAfter (removeGroup someGroup) (fresh 5)
  let d₂ := stateAfter (rejoinGroup someGroup) d₁
  let d := stateAfter (edit .groupInfo (.group someGroup) (EditM.set "info" "name" "1")) d₂
  have removed : removeGroup someGroup (fresh 5) = .ok () d₁ := by rfl
  have rejoined : rejoinGroup someGroup d₁ = .ok () d₂ := by
    obtain ⟨done, ran, -⟩ := exists_of_yields
      (show yields (rejoinGroup someGroup) d₁ (fun _ => true) = true by decide +kernel)
    exact ran
  -- after the rejoin there is one edit, and no acknowledgement
  have after : Runs { unacknowledged someGroup with reopen := fun _ => False } d₂ d :=
    (Runs.refl d₂).act (.edit .groupInfo _ (.set "info" "name" "1")) ⟨by simp, by simp, by simp⟩
  have placed : d.Placed (.group someGroup) .groupInfo 0 := by
    unfold Placed
    decide +kernel
  have once : d.session.closed = false ∧ (d.session.object 0).seqno = 1 := by decide +kernel
  obtain ⟨-, takes⟩ := late_acknowledgement_iff (reached_fresh 5) removed (.refl d₁) rejoined after
    once.1 placed
  -- any number up to that of the present revision is taken for a known one
  refine ⟨d, placed, once.2, fun hash => (takes 1 hash).2.1 ?_⟩
  rw [once.2]
  decide

/-- A push of the first revision of a group's object is on its way when the group is removed. The
group is rejoined and edited, which makes a first revision again, and then the acknowledgement
arrives. Gives the pushes, and the object's marks before and after it. -/
def lateAcknowledgement :
    SessionM (List (Variant × UInt64) × Bool × List String × Bool × Bool × List String) := do
  discard (edit .groupInfo (.group someGroup) (EditM.set "info" "name" "1"))
  let pushes ← pendingPushes (.closedGroup someGroup)
  removeGroup someGroup
  rejoinGroup someGroup
  discard (edit .groupInfo (.group someGroup) (EditM.set "info" "name" "2"))
  let before ← read .groupInfo (.group someGroup)
  let clean ← confirm .groupInfo (.group someGroup) 1 "late"
  let after ← read .groupInfo (.group someGroup)
  pure (pushes.map fun push => (push.variant, push.seqno), before.dirty, before.currentHashes,
    clean, after.dirty, after.currentHashes)

/-- **An edit that nobody was told of is marked clean**, with the hash of a push that was made
before the group was removed. -/
theorem late_acknowledgement_taken :
    ∃ d, lateAcknowledgement (fresh 5) =
      .ok ([(.groupInfo, 1)], true, [], true, false, ["late"]) d := by
  -- the run is evaluated; no theorem says it, for it is the run itself that matters
  have passes : yields lateAcknowledgement (fresh 5)
      (fun x => x = ([(.groupInfo, 1)], true, [], true, false, ["late"])) = true := by
    decide +kernel
  obtain ⟨x, ran, same⟩ := exists_of_yields passes
  obtain rfl := of_decide_eq_true same
  exact ⟨_, ran⟩

end Device

end ConfigReplica
