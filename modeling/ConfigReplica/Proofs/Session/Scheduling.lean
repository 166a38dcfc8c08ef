import ConfigReplica.Proofs.Session.Operations
import ConfigReplica.Proofs.Session.Within

/-!
# What operations do to the schedule

The schedule is out of reach of almost all that a session does. Four things become of it
(`Device.Stir`): nothing, a push is scheduled while the session is open, a destination is
taken out because its group is removed, or everything is taken out because the session is
wiped. Every operation comes to a series of these (`Operation.stirs`).

That a session is closed is for good, so it is brought along.
-/

namespace ConfigReplica

open Config

/-! ### Schedules -/

namespace Schedule

variable (s : Schedule) (destination other : Destination)

/-- A destination that is put into the queue is in it, beside those that were. -/
@[simp] theorem mem_insert :
    other ∈ (s.insert destination).queue ↔ other = destination ∨ other ∈ s.queue := by
  simp only [insert, Std.ExtTreeSet.mem_insert, Std.compare_eq_iff_eq]
  rw [eq_comm]

/-- A destination that is taken out is not in the queue any more. -/
@[simp] theorem mem_erase :
    other ∈ (s.erase destination).queue ↔ other ≠ destination ∧ other ∈ s.queue := by
  simp only [erase, Std.ExtTreeSet.mem_erase, ne_eq, Std.compare_eq_iff_eq]
  rw [eq_comm]

/-- A signal is no change of the queue. -/
@[simp] theorem queue_signal : s.signal.queue = s.queue := by
  unfold signal
  split <;> rfl

/-- The loop is roused without a change of the queue. -/
@[simp] theorem queue_rouse (debounce now : Nat) : (s.rouse debounce now).queue = s.queue := by
  unfold rouse
  split
  · split <;> rfl
  · rfl
  · rfl

/-- The whole queue is taken. -/
theorem mem_take : destination ∈ s.take.1 ↔ destination ∈ s.queue :=
  Std.ExtTreeSet.mem_toList

end Schedule

/-! ### Steps of a deed -/

namespace Device

/-- **What becomes of the schedule** in one step of a deed. A session that is closed stays so. -/
inductive Stir : Deed → Device → Device → Prop
  | still {deed : Deed} {d d' : Device} (schedule : d'.session.schedule = d.session.schedule)
      (closed : d.session.closed = true → d'.session.closed = true) : Stir deed d d'
  | pushed {deed : Deed} {d : Device} (isOpen : d.session.closed = false)
      (destination : Destination) :
      Stir deed d (d.setSchedule (d.session.schedule.insert destination).signal)
  | dropped {d : Device} (group : GroupId) :
      Stir (.remove group) d (d.setSchedule (d.session.schedule.erase (.closedGroup group)))
  | emptied {d : Device} : Stir .wipe d (d.setSchedule { d.session.schedule with queue := ∅ })

end Device

namespace SessionM

open Device

variable {α β : Type} {deed : Deed}

/-! ### Steps that leave the schedule alone -/

/-- An action that has neither the schedule nor the end of the session in its reach. -/
theorem within_still {action : SessionM α}
    (same : ∀ d, (stateAfter action d).session.schedule = d.session.schedule ∧
      (stateAfter action d).session.closed = d.session.closed) :
    Within (Stir deed) action :=
  .step fun d => .still (same d).1 (same d).2.trans

/-- What the store does is out of reach of the schedule. -/
theorem stirs_onStore (action : StoreM α) : Within (Stir deed) (onStore action) := by
  refine within_still fun d => ?_
  unfold stateAfter onStore
  cases action d.store <;> exact ⟨rfl, rfl⟩

/-- A change of the session that is not one of the schedule. -/
theorem stirs_modifySession {f : Session → Session}
    (same : ∀ s, (f s).schedule = s.schedule ∧ (f s).closed = s.closed) :
    Within (Stir deed) (modifySession f) :=
  within_still fun d => same d.session

/-- Objects are another part of the session than the schedule. -/
theorem stirs_setObject (handle : Handle) (o : Object) :
    Within (Stir deed) (setObject handle o) :=
  stirs_modifySession fun _ => ⟨rfl, rfl⟩

/-- Nothing is scheduled to look things up. -/
theorem looking_stir : Looking (Stir deed) where
  read _ _ := .still rfl id
  recalled _ _ := .still rfl id
  touched _ _ _ := .still rfl id
  adopted _ _ _ _ := .still rfl id
  drawn _ _ := .still rfl id

/-! ### Removal marks -/

/-- The check of a scope at most reads the marks. -/
theorem stirs_checkPresent (scope : Scope) : Within (Stir deed) (checkPresent scope) :=
  looking_stir.within_checkPresent scope

/-- Changing the marks schedules nothing. -/
theorem stirs_updateMarks (f : RemovalMarks → RemovalMarks) :
    Within (Stir deed) (updateMarks f) := by
  have since : Within (Stir deed) markCutoff := .look fun _ => rfl
  unfold updateMarks
  refine looking_stir.within_marks.bind fun before => since.bind fun since => ?_
  refine Within.bind ?_ fun _ => stirs_onStore _
  exact stirs_modifySession fun _ => ⟨rfl, rfl⟩

/-! ### Objects -/

/-- A lookup schedules nothing, whether it loads the object or not. -/
theorem stirs_find (variant : Variant) (scope : Scope) :
    Within (Stir deed) (find variant scope) :=
  looking_stir.within_find variant scope

/-- Reading an object schedules nothing. -/
theorem stirs_read (variant : Variant) (scope : Scope) :
    Within (Stir deed) (read variant scope) := by
  unfold read
  exact (stirs_find variant scope).bind fun handle => within_object handle

/-- Storing an object schedules nothing: what is pushed is decided where it changes. -/
theorem stirs_persistObject (handle : Handle) (time : Int64) :
    Within (Stir deed) (persistObject handle time) := by
  unfold persistObject
  refine (within_object handle).bind fun o => ?_
  split
  · exact .throw _
  · refine (stirs_checkPresent _).bind fun _ => ?_
    exact (stirs_onStore _).bind fun _ => stirs_setObject _ _

/-- Storing what is in a slot schedules nothing. -/
theorem stirs_persist (variant : Variant) (scope : Scope) (time : Int64) :
    Within (Stir deed) (persist variant scope time) := by
  unfold persist
  refine (stirs_checkPresent scope).bind fun _ => ?_
  exact (stirs_find variant scope).bind fun handle => stirs_persistObject handle time

/-- Nor does storing all that is to be stored. -/
theorem stirs_persistAll : Within (Stir deed) persistAll := by
  -- one object at a time: the error of one does not keep the next from being stored
  have each (outcome : Except Error Nat) (handle : Handle) :
      Within (Stir deed) (persistIfNeeded outcome handle) := by
    unfold persistIfNeeded
    refine (within_object handle).bind fun o => ?_
    split
    · exact .pure _
    · refine within_now.bind fun time => ?_
      refine (within_attempt (stirs_persistObject handle time)).bind fun stored => ?_
      split <;> exact .pure _
  unfold persistAll
  refine within_checkOpen.bind fun _ => within_session.bind fun s => ?_
  exact (Within.foldlM _ _ each).bind fun outcome => within_ofExcept _

/-! ### Editing and merging -/

/-- An edit of a copy at hand does not schedule a push. That is for the edit by scope and variant.
-/
theorem stirs_editObject (handle : Handle) (time : Int64) (step : EditM α) :
    Within (Stir deed) (editObject handle time step) := by
  have looks : Within (Stir deed) (get : SessionM Device) := .look fun _ => rfl
  unfold editObject
  refine (within_object handle).bind fun o => looks.bind fun d => ?_
  refine (within_ofExcept _).bind fun edited => (stirs_setObject _ _).bind fun _ => ?_
  have drawn : Within (Stir deed)
      (modify fun d => { d with entropy := edited.entropy } : SessionM PUnit) :=
    within_still fun _ => ⟨rfl, rfl⟩
  exact drawn.bind fun _ => .pure _

/-- On an open session a destination is put into the queue, and the loop is told. -/
theorem schedulePush_of_open {d : Device} (isOpen : d.session.closed = false)
    (destination : Destination) :
    schedulePush destination d =
      .ok ⟨⟩ (d.setSchedule (d.session.schedule.insert destination).signal) := by
  unfold schedulePush
  rw [bind_of_ok (session_eq d), isOpen]
  rfl

/-- A push is scheduled only while the session is open. -/
theorem stirs_schedulePush (destination : Destination) :
    Within (Stir deed) (schedulePush destination) := by
  intro d
  cases closed : d.session.closed with
  -- a closed session has no use for a push any more
  | true =>
    have ran : schedulePush destination d = .ok ⟨⟩ d := by
      unfold schedulePush
      rw [bind_of_ok (session_eq d), closed]
      rfl
    rw [stateAfter_of_ok ran]
  | false =>
    rw [stateAfter_of_ok (schedulePush_of_open closed destination)]
    exact .single (.pushed closed destination)

/-- **An edit** schedules a push if it changed the object, and nothing otherwise. -/
theorem stirs_edit (variant : Variant) (scope : Scope) (step : EditM α) :
    Within (Stir deed) (edit variant scope step) := by
  unfold edit
  refine (stirs_checkPresent scope).bind fun _ => (stirs_find variant scope).bind fun handle => ?_
  refine within_now.bind fun time => (stirs_editObject handle time step).bind fun done => ?_
  dsimp only
  split
  · -- the object changed: whether it could be stored or not, a push follows
    refine within_now.bind fun time => ?_
    refine (within_attempt (stirs_persistObject handle time)).bind fun stored => ?_
    split
    · refine within_session.bind fun s => (stirs_schedulePush _).bind fun _ => ?_
      exact (within_ofExcept _).bind fun _ => .pure _
    · exact (within_ofExcept _).bind fun _ => .pure _
  · exact .pure _

/-- Telling the listener schedules nothing. -/
theorem stirs_notify (notice : Notice) : Within (Stir deed) (notify notice) :=
  stirs_modifySession fun _ => ⟨rfl, rfl⟩

/-- A merge into a copy at hand schedules nothing. -/
theorem stirs_mergeObject (handle : Handle) (id : String) (data : Bytes) :
    Within (Stir deed) (mergeObject handle id data) := by
  unfold mergeObject
  refine (within_object handle).bind fun o => (within_ofExcept _).bind fun merged => ?_
  exact (stirs_setObject _ _).bind fun _ => .pure _

/-- One update of a batch schedules nothing. -/
theorem stirs_mergeUpdate (handle : Handle) (variant : Variant) (scope : Scope)
    (report : MergeReport) (update : Update) :
    Within (Stir deed) (mergeUpdate handle variant scope report update) := by
  unfold mergeUpdate
  refine within_checkOpen.bind fun _ => within_session.bind fun s => ?_
  split
  · exact .pure _
  · -- an update is taken, or was known, or cannot be read, and none of it is to be pushed
    refine (within_object handle).bind fun o => ?_
    split
    · exact (stirs_setObject _ _).bind fun _ => .pure _
    · exact .pure _
    · exact .throw _

/-- A merge schedules nothing: what came from others is not pushed to them. -/
theorem stirs_merge (variant : Variant) (scope : Scope) (updates : List Update) (time : Int64) :
    Within (Stir deed) (merge variant scope updates time) := by
  unfold merge
  refine (stirs_checkPresent scope).bind fun _ => (stirs_find variant scope).bind fun handle => ?_
  refine (within_object handle).bind fun o => ?_
  split
  · exact .throw _
  · refine (stirs_checkPresent scope).bind fun _ => ?_
    refine (Within.foldlM _ _ fun _ _ => stirs_mergeUpdate _ _ _ _ _).bind fun report => ?_
    refine within_checkOpen.bind fun _ => (within_object handle).bind fun o => ?_
    -- the listener is told whether or not the object had to be stored
    have tells : Within (Stir deed) (do
        if report.changed then notify { variant, scope, time }
        Pure.pure report : SessionM MergeReport) := by
      split
      · exact (stirs_notify _).bind fun _ => .pure _
      · exact .pure _
    cases o.needsDump with
    | true => exact (stirs_persistObject handle time).bind fun _ => tells
    | false => exact tells

/-! ### Pushes -/

/-- Wrapping a message is reading and drawing. -/
theorem stirs_wrap (message : Bytes) (domain : String) (recipient : Identity)
    (group : Option GroupId) : Within (Stir deed) (wrap message domain recipient group) :=
  within_still fun _ => ⟨rfl, rfl⟩

/-- Collecting the pushes takes nothing out of the queue. -/
theorem stirs_pendingPushes (destination : Destination) :
    Within (Stir deed) (pendingPushes destination) := by
  have each (scope : Scope) (variant : Variant) :
      Within (Stir deed) (pendingPush scope variant) := by
    unfold pendingPush
    refine (stirs_read variant scope).bind fun o => ?_
    split
    · exact .pure _
    · exact within_session.bind fun s => (stirs_wrap _ _ _ _).bind fun data => .pure _
  unfold pendingPushes
  exact (Within.mapM _ (each _)).bind fun pushes => .pure _

/-- An acknowledgement takes nothing out of the queue. -/
theorem stirs_confirm (variant : Variant) (scope : Scope) (seqno : UInt64) (hash : String) :
    Within (Stir deed) (confirm variant scope seqno hash) := by
  unfold confirm
  refine (stirs_checkPresent scope).bind fun _ => (stirs_find variant scope).bind fun handle => ?_
  refine (within_object handle).bind fun o => ?_
  split
  · exact .throw _
  · refine (stirs_setObject _ _).bind fun _ => within_now.bind fun time => ?_
    exact (stirs_persistObject handle time).bind fun _ => .pure _

/-! ### Ends -/

/-- To destroy an object is to change it. -/
theorem stirs_destroyObject (handle : Handle) : Within (Stir deed) (destroyObject handle) := by
  unfold destroyObject
  exact (within_object handle).bind fun o => stirs_setObject _ _

/-- Deleting a row is for the store. -/
theorem stirs_deleteRow (scope : Scope) (variant : Variant) :
    Within (Stir deed) (deleteRow scope variant) :=
  stirs_onStore _

/-- The removal of a group takes its destination out of the queue. -/
theorem stirs_removeGroup (group : GroupId) :
    Within (Stir (.remove group)) (removeGroup group) := by
  unfold removeGroup
  refine within_now.bind fun time => (stirs_updateMarks _).bind fun _ => ?_
  refine within_session.bind fun s => Within.bind ?_ fun _ => ?_
  · exact stirs_modifySession fun _ => ⟨rfl, rfl⟩
  · -- the objects are destroyed and their rows deleted, and only then is the destination taken out
    refine (Within.forM _ fun variant => ?_).bind fun _ => ?_
    · refine Within.bind ?_ fun _ => stirs_deleteRow _ _
      cases (s.slot (.group group))[variant]? with
      | none => exact .pure _
      | some handle => exact stirs_destroyObject handle
    · exact .step fun d => .dropped group

/-- Closing leaves the queue as it is. -/
theorem stirs_close : Within (Stir deed) close :=
  .step fun _ => .still rfl fun _ => rfl

/-- Wiping empties the queue. -/
theorem stirs_wipe : Within (Stir .wipe) wipe := by
  have recorded : Within (Stir .wipe) recordedGroups := by
    unfold recordedGroups
    refine within_session.bind fun s => ?_
    split
    · exact .pure _
    · refine (stirs_read _ _).bind fun o => ?_
      exact (within_ofExcept _).bind fun entries => .pure _
  -- the groups to wipe are those recorded and those in memory
  have evicts : Within (Stir .wipe) evictAll := by
    unfold evictAll
    refine within_session.bind fun s => (Within.forM _ stirs_destroyObject).bind fun _ => ?_
    refine Within.bind ?_ fun _ => .pure _
    exact stirs_modifySession fun _ => ⟨rfl, rfl⟩
  -- rows are deleted one by one; the queue is emptied when all are gone
  unfold wipe
  refine recorded.bind fun recorded => stirs_close.bind fun _ => evicts.bind fun loaded => ?_
  refine (Within.forM _ fun _ => stirs_deleteRow _ _).bind fun _ => ?_
  refine (Within.forM _ fun _ => Within.forM _ fun _ => stirs_deleteRow _ _).bind fun _ => ?_
  refine (Within.forM _ fun _ => stirs_onStore _).bind fun _ => ?_
  refine (stirs_onStore _).bind fun _ => Within.bind ?_ fun _ => ?_
  · exact stirs_modifySession fun _ => ⟨rfl, rfl⟩
  · exact .step fun d => .emptied

/-! ### Watermarks and lookups -/

/-- A change is checked against watermarks, which are no part of the schedule. -/
theorem stirs_checkChange (variant : Variant) (key : String) (time : Int64) :
    Within (Stir deed) (checkChange variant key time) := by
  have known : Within (Stir deed) (watermarks variant) := by
    unfold watermarks
    refine within_session.bind fun s => ?_
    split
    · exact .pure _
    · refine (stirs_onStore _).bind fun stored => Within.bind ?_ fun _ => .pure _
      exact stirs_modifySession fun _ => ⟨rfl, rfl⟩
  have saves (marks : Watermarks) : Within (Stir deed)
      (modifySession (fun s => { s with watermarks := s.watermarks.insert variant marks }) >>=
        fun _ => discard (attempt
          (onStore (StoreM.save watermarksCodec .changeWatermarks variant.name marks)))) := by
    refine Within.bind ?_ fun _ => ?_
    · exact stirs_modifySession fun _ => ⟨rfl, rfl⟩
    · exact (within_attempt (stirs_onStore _)).bind fun _ => .pure _
  unfold checkChange
  -- a change that is no later than its watermark is refused, another one moves it
  refine known.bind fun marks => ?_
  split
  · split
    · exact .throw _
    · exact saves _
  · exact saves _

/-- To ask whether a change is allowed schedules nothing. -/
theorem stirs_canChange (variant : Variant) (key : String) (time : Int64) :
    Within (Stir deed) (canChange variant key time) := by
  unfold canChange
  refine (within_attempt (stirs_checkChange variant key time)).bind fun outcome => ?_
  split <;> exact .pure _

/-- To ask whether there is a conversation schedules nothing. -/
theorem stirs_hasConversation (visibleOnly : Bool) (name : Option ConversationName) :
    Within (Stir deed) (hasConversation visibleOnly name) := by
  cases name with
  | none =>
    have found : Within (Stir deed) (discard (read .userGroups .account)) :=
      (stirs_read _ _).bind fun _ => .pure _
    exact found.bind fun _ => .pure _
  | some name =>
    cases name with
    | contact id =>
      -- a contact is looked up in the profile or among the contacts
      unfold hasConversation
      refine within_session.bind fun s => ?_
      split
      · refine (stirs_read _ _).bind fun o => ?_
        exact (within_ofExcept _).bind fun profile => .pure _
      · refine (stirs_read _ _).bind fun o => ?_
        exact (within_ofExcept _).bind fun contact => .pure _
    | group id =>
      refine (stirs_read _ _).bind fun o => ?_
      exact (within_ofExcept _).bind fun entry => .pure _
    | community key =>
      refine (stirs_read _ _).bind fun o => ?_
      exact (within_ofExcept _).bind fun entry => .pure _

end SessionM

/-- **What an operation does to the schedule.** Only the loop changes it in another way, and its
changes are among the deeds that only look. -/
theorem Operation.stirs {deed : Deed} {α : Type} {action : SessionM α}
    (operation : Operation deed action) (acts : deed ≠ .look) :
    Within (Device.Stir deed) action := by
  cases operation with
  | read variant scope => exact SessionM.stirs_read variant scope
  | accountObjects => exact .mapM _ fun variant => SessionM.stirs_find variant .account
  | edit variant scope plan => exact SessionM.stirs_edit variant scope _
  | persist variant scope time => exact SessionM.stirs_persist variant scope time
  | persistGroup group time =>
    exact .forM _ fun variant => SessionM.stirs_persist variant (.group group) time
  | persistAll => exact SessionM.stirs_persistAll
  | merge variant scope updates time => exact SessionM.stirs_merge variant scope updates time
  | pendingPushes destination => exact SessionM.stirs_pendingPushes destination
  | confirm variant scope seqno hash => exact SessionM.stirs_confirm variant scope seqno hash
  | hasConversation visibleOnly name => exact SessionM.stirs_hasConversation visibleOnly name
  | editObject handle time plan => exact SessionM.stirs_editObject handle time _
  | mergeObject handle id data => exact SessionM.stirs_mergeObject handle id data
  | removeGroup group => exact SessionM.stirs_removeGroup group
  | rejoinGroup group => exact SessionM.stirs_updateMarks _
  | checkChange variant key time => exact SessionM.stirs_checkChange variant key time
  | canChange variant key time => exact SessionM.stirs_canChange variant key time
  -- these four only look, and are not asked about
  | wrap => exact absurd rfl acts
  | listen => exact absurd rfl acts
  | schedulePush => exact absurd rfl acts
  | modifySchedule => exact absurd rfl acts
  | close => exact SessionM.stirs_close
  | wipe => exact SessionM.stirs_wipe

end ConfigReplica
