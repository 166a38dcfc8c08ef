import ConfigReplica.Proofs.Session.Outcomes
import ConfigReplica.Proofs.Session.Runs
import ConfigReplica.Proofs.Session.Scheduling

/-!
# Closed sessions

Once a session is closed it stores no object any more. Each operation gets to its objects
by its own way, and not all of them ask whether the session is open; what they have in
common is shown for each of them, and then for whatever comes after the closing
(`Device.Move`).

* Operations that need an object of the session fail (`NeedsOpen.refused`). Those that ask
  first whether a group was removed may fail for that reason, or because the marks cannot
  be read.
* All others leave the rows of objects alone, or delete some, and make no object clean
  (`Device.Quiet`, `Device.Move.quiet`). Only an acknowledgement makes an object clean
  (`Device.Effect.dirty`), and that is one of those that fail.
* A flush that is about to begin comes to nothing, and one whose push is under way does
  nothing when it is back (`OnlineM.flush_of_closed`, `OnlineM.sendPush_of_closed`).

Main statement: `Device.closed_session_stores_nothing`.
-/

namespace ConfigReplica

open Config

/-! ### What makes an object clean -/

/-- An object with local changes keeps them, whatever becomes of it but an acknowledgement. -/
theorem Config.Object.Change.dirty {deed : Deed} {o o' : Object} (change : Object.Change deed o o')
    (other : ∀ scope, deed ≠ .confirm scope) (dirty : o.dirty = true) : o'.dirty = true := by
  cases change with
  -- an edit leaves the object alone, or makes it dirty
  | edit plan time entropy ran =>
    rw [Object.edit_cases ran]
    unfold Object.revise
    split
    · exact dirty
    · rfl
  -- a merge changes the state at most
  | merge accepted =>
    rcases Object.merge_cases accepted with ⟨-, rfl⟩ | ⟨s, -, rfl⟩ <;> exact dirty
  | confirm seqno hash => exact absurd rfl (other _)

namespace Device

variable {deed : Deed} {d d' d'' : Device}

/-- Only an acknowledgement makes an object clean. -/
theorem Effect.dirty (effect : Effect deed d d') (other : ∀ scope, deed ≠ .confirm scope)
    {i : Handle} (dirty : (d.session.object i).dirty = true) :
    (d'.session.object i).dirty = true := by
  -- only where a handle gets another object is there anything to show
  cases effect with
  | aside same =>
    rw [same.object]
    exact dirty
  | @adopted _ _ scope variant o handles isOpen admitted free loads =>
    -- the new handle stood for no object before
    rw [object_adopt]
    split
    · next new =>
      rw [Session.object, new, Array.getElem?_size] at dirty
      cases dirty
    · exact dirty
  | @changed _ _ handle o handles change =>
    rw [object_setObject]
    split
    · next here =>
      rw [here.1] at dirty
      exact change.dirty other dirty
    · exact dirty
  | @stored _ _ scope variant handle o stores object placed time live present =>
    rw [object_setObject]
    split
    · next here =>
      rw [here.1, object] at dirty
      exact dirty
    · exact dirty
  | @destroyed _ group handle loose =>
    rw [object_setObject]
    split
    · next here =>
      rw [here.1] at dirty
      exact dirty
    · exact dirty
  -- a wipe ends the objects of the session, and ending one says nothing of its changes
  | cleared objects ends =>
    by_cases gone : i ∈ d.session.handles
    · exact (congrArg Object.dirty (ends.ended i gone)).trans dirty
    · exact (congrArg Object.dirty (ends.others i gone)).trans dirty
  | _ => exact dirty

/-- What writes no object leaves the rows of objects alone, or deletes them. -/
theorem Effect.configs (effect : Effect deed d d') (idle : ¬ deed.Stores) {key : String} :
    (∀ bytes, d'.store.row? ⟨.configs, key⟩ = some bytes →
      d.store.row? ⟨.configs, key⟩ = some bytes) ∧
    (deed.Calm → d'.store.row? ⟨.configs, key⟩ = d.store.row? ⟨.configs, key⟩) := by
  constructor
  · intro bytes row
    -- a row that is there was there before, or was written, and none of an object was
    rcases effect.row_cases row with before | writes
    · exact before
    · generalize same : (⟨.configs, key⟩ : Cell) = cell at writes
      cases writes with
      | marks change known => cases congrArg Cell.table same
      | watermarks variant bytes => cases congrArg Cell.table same
      | object stores => exact absurd stores idle
  · -- of a calm deed no row of an object is deleted either
    intro calm
    cases effect with
    | aside same =>
      unfold Store.row?
      rw [same.rows]
    | markSaved change known =>
      -- marks and watermarks have tables of their own
      have apart : (⟨.configs, key⟩ : Cell) ≠ RemovalMarks.cell := by
        intro same
        cases congrArg Cell.table same
      rw [row?_setRow, if_neg apart]
    | watermarkSaved variant bytes =>
      have apart : (⟨.configs, key⟩ : Cell) ≠ ⟨.changeWatermarks, variant.name⟩ := by
        intro same
        cases congrArg Cell.table same
      rw [row?_setRow, if_neg apart]
    | stored stores => exact absurd stores idle
    | rowDeleted variant mine =>
      rcases mine with rfl | ⟨group, rfl, -⟩
      · exact calm.elim
      · exact calm.elim
    | otherDeleted => exact calm.elim
    | _ => rfl

end Device

/-! ### Operations that need an open session -/

/-- **The operations that need an object** of the session, with the group whose removal they ask
about first, if they do. -/
inductive NeedsOpen : Option GroupId → {α : Type} → SessionM α → Prop
  | read (variant : Variant) (scope : Scope) : NeedsOpen none (SessionM.read variant scope)
  | accountObjects : NeedsOpen none SessionM.accountObjects
  | hasConversation (visibleOnly : Bool) (name : Option ConversationName) :
      NeedsOpen none (SessionM.hasConversation visibleOnly name)
  | persistAll : NeedsOpen none SessionM.persistAll
  | pendingPushes (destination : Destination) :
      NeedsOpen none (SessionM.pendingPushes destination)
  | edit (variant : Variant) (scope : Scope) {α : Type} (step : EditM α) :
      NeedsOpen scope.group? (SessionM.edit variant scope step)
  | persist (variant : Variant) (scope : Scope) (time : Int64) :
      NeedsOpen scope.group? (SessionM.persist variant scope time)
  | persistGroup (group : GroupId) (time : Int64) :
      NeedsOpen (some group) (SessionM.persistGroup group time)
  | merge (variant : Variant) (scope : Scope) (updates : List Update) (time : Int64) :
      NeedsOpen scope.group? (SessionM.merge variant scope updates time)
  | confirm (variant : Variant) (scope : Scope) (seqno : UInt64) (hash : String) :
      NeedsOpen scope.group? (SessionM.confirm variant scope seqno hash)

namespace SessionM

open Device

variable {α β : Type} {d d' : Device}

/-- The check of a closed session fails. -/
theorem checkOpen_of_closed (closed : d.session.closed = true) :
    checkOpen d = .error .sessionClosed d := by
  unfold checkOpen
  rw [bind_of_ok (session_eq d), closed]
  rfl

/-- A lookup in a closed session fails. -/
theorem find_of_closed (closed : d.session.closed = true) (variant : Variant) (scope : Scope) :
    find variant scope d = .error .sessionClosed d :=
  bind_of_error (checkOpen_of_closed closed)

/-- So does reading an object. -/
theorem read_of_closed (closed : d.session.closed = true) (variant : Variant) (scope : Scope) :
    read variant scope d = .error .sessionClosed d :=
  bind_of_error (find_of_closed closed variant scope)

/-- So does storing all objects. -/
theorem persistAll_of_closed (closed : d.session.closed = true) :
    persistAll d = .error .sessionClosed d :=
  bind_of_error (checkOpen_of_closed closed)

/-- So does collecting the pushes of a scope. -/
theorem pendingPushes_of_closed (closed : d.session.closed = true) (destination : Destination) :
    pendingPushes destination d = .error .sessionClosed d := by
  have first (scope : Scope) (variant : Variant) :
      pendingPush scope variant d = .error .sessionClosed d :=
    bind_of_error (read_of_closed closed variant scope)
  unfold pendingPushes
  refine bind_of_error ?_
  -- a scope has at least one variant, and the first is refused
  cases destination.scope with
  | account =>
    rw [Scope.variants, Variant.ofAccount, List.mapM_cons]
    exact bind_of_error (first _ _)
  | group group =>
    rw [Scope.variants, Variant.ofGroup, List.mapM_cons]
    exact bind_of_error (first _ _)

end SessionM

namespace Device

open SessionM

/-- **Why an operation fails** on a closed session: because it is closed, or, if it asks about a
group first, because the group was removed or the marks cannot be read. -/
def FailsClosed (d : Device) (asked : Option GroupId) (error : Error) : Prop :=
  error = .sessionClosed ∨ ∃ group, asked = some group ∧
    ((error = .gone (.group group) ∧ ∃ known d', marks d = .ok known d' ∧
        ∃ time, known[group]? = some time ∧ d.cutoff ≤ time) ∨
      d.session.removed = none ∧ ∃ d', marks d = .error error d')

/-- An action fails for one of these reasons, and leaves all as it was. -/
def RefusedClosed {α : Type} (d : Device) (asked : Option GroupId) (action : SessionM α) : Prop :=
  ∃ error d', action d = .error error d' ∧ d.FailsClosed asked error ∧ Alike d d' ∧
    (asked = none → d' = d)

variable {α β : Type} {d : Device}

/-- Where the first action fails, the next makes no difference. -/
theorem RefusedClosed.bind {first : SessionM α} {asked : Option GroupId}
    (refused : d.RefusedClosed asked first) (next : α → SessionM β) :
    d.RefusedClosed asked (first >>= next) := by
  obtain ⟨error, d', ran, rest⟩ := refused
  exact ⟨error, d', bind_of_error ran, rest⟩

/-- An action that fails because the session is closed. -/
theorem RefusedClosed.of_closed {action : SessionM α} (asked : Option GroupId)
    (ran : action d = .error .sessionClosed d) : d.RefusedClosed asked action :=
  ⟨.sessionClosed, d, ran, .inl rfl, .refl d, fun _ => rfl⟩

/-- **The check of a scope and a lookup.** On a closed session one of them fails. -/
theorem refused_after_check (closed : d.session.closed = true) (variant : Variant) (scope : Scope)
    (next : Handle → SessionM β) :
    d.RefusedClosed scope.group? (checkPresent scope >>= fun _ => find variant scope >>= next) := by
  -- the account is never asked about, so the lookup is what fails
  cases scope with
  | account =>
    have passes : checkPresent .account d = .ok () d := rfl
    refine .of_closed _ ?_
    rw [bind_of_ok passes]
    exact bind_of_error (find_of_closed closed variant .account)
  | group group =>
    obtain ⟨d', alike, ⟨known, read⟩ | ⟨error, failed, -⟩⟩ := marks_cases d
    · -- the marks were read: a mark that stands is one reason, the session another
      have checked := checkPresent_of_marks read group
      split at checked
      · next stands =>
        cases mark : known[group]? with
        | none =>
          rw [mark] at stands
          cases stands
        | some time =>
          rw [mark] at stands
          have removed : d.FailsClosed (some group) (.gone (.group group)) :=
            .inr ⟨group, rfl, .inl ⟨rfl, known, d', read, time, mark, of_decide_eq_true stands⟩⟩
          exact ⟨_, d', bind_of_error checked, removed, alike, nofun⟩
      · -- the group is present, but the session is closed
        have refused := find_of_closed (alike.closed.trans closed) variant (.group group)
        exact ⟨_, d', (bind_of_ok checked).trans (bind_of_error refused), .inl rfl, alike, nofun⟩
    · -- the marks could not be read; if they were known, reading them would not have failed
      have checked := checkPresent_of_unread failed group
      refine ⟨_, d', bind_of_error checked, .inr ⟨group, rfl, .inr ⟨?_, d', failed⟩⟩, alike, nofun⟩
      cases removed : d.session.removed with
      | none => rfl
      | some known =>
        rw [marks_of_known removed] at failed
        cases failed

end Device

open SessionM Device in
/-- **On a closed session they fail**, and leave all as it was. -/
theorem NeedsOpen.refused {asked : Option GroupId} {α : Type} {action : SessionM α}
    (needs : NeedsOpen asked action) {d : Device} (closed : d.session.closed = true) :
    d.RefusedClosed asked action := by
  have reads (variant : Variant) (scope : Scope) :
      d.RefusedClosed none (SessionM.read variant scope) :=
    .of_closed none (read_of_closed closed variant scope)
  cases needs with
  | read variant scope => exact reads variant scope
  | accountObjects =>
    unfold SessionM.accountObjects
    rw [Variant.ofAccount, List.mapM_cons]
    -- the first object of the account is looked up, and that fails
    exact (RefusedClosed.of_closed none (find_of_closed closed _ _)).bind _
  | hasConversation visibleOnly name =>
    cases name with
    | none =>
      have found : d.RefusedClosed none (discard (SessionM.read .userGroups .account)) :=
        (reads .userGroups .account).bind _
      exact found.bind _
    | some name =>
      cases name with
      | contact id =>
        -- whose conversation it is makes no difference
        refine .of_closed none ((bind_of_ok (session_eq d)).trans ?_)
        split
        · exact bind_of_error (read_of_closed closed _ _)
        · exact bind_of_error (read_of_closed closed _ _)
      | group id => exact (reads .userGroups .account).bind _
      | community key => exact (reads .userGroups .account).bind _
  | persistAll => exact .of_closed none (persistAll_of_closed closed)
  | pendingPushes destination => exact .of_closed none (pendingPushes_of_closed closed destination)
  | edit variant scope step => exact refused_after_check closed variant scope _
  | persist variant scope time => exact refused_after_check closed variant scope _
  | persistGroup group time =>
    -- the first object of the group is refused, so the second is not reached
    have first := refused_after_check closed .groupInfo (.group group) fun handle =>
      persistObject handle time
    exact first.bind _
  | merge variant scope updates time => exact refused_after_check closed variant scope _
  | confirm variant scope seqno hash => exact refused_after_check closed variant scope _

/-! ### Operations on a closed session -/

namespace Device

variable {deed : Deed} {d d' d'' : Device}

/-- **What is left to a closed session**: it stays closed, no row of an object is written, no object
becomes clean, and nothing is scheduled. -/
structure Quiet (d d' : Device) : Prop where
  closed : d'.session.closed = true
  rows : ∀ key bytes, d'.store.row? ⟨.configs, key⟩ = some bytes →
    d.store.row? ⟨.configs, key⟩ = some bytes
  dirty : ∀ handle, (d.session.object handle).dirty = true →
    (d'.session.object handle).dirty = true
  queue : ∀ destination, destination ∈ d'.session.schedule.queue →
    destination ∈ d.session.schedule.queue

theorem Quiet.refl (closed : d.session.closed = true) : Quiet d d :=
  ⟨closed, fun _ _ => id, fun _ => id, fun _ => id⟩

theorem Quiet.trans (first : Quiet d d') (second : Quiet d' d'') : Quiet d d'' where
  closed := second.closed
  rows key bytes row := first.rows key bytes (second.rows key bytes row)
  dirty handle dirty := second.dirty handle (first.dirty handle dirty)
  queue destination mem := first.queue destination (second.queue destination mem)

/-- A closed session stays so, and only takes destinations out of its queue. -/
theorem Stir.of_closed (stir : Stir deed d d') (closed : d.session.closed = true) :
    d'.session.closed = true ∧ ∀ destination,
      destination ∈ d'.session.schedule.queue → destination ∈ d.session.schedule.queue := by
  cases stir with
  | still schedule stays =>
    rw [schedule]
    exact ⟨stays closed, fun _ => id⟩
  -- a push is put into the queue of an open session only
  | pushed isOpen =>
    rw [closed] at isOpen
    cases isOpen
  | dropped group =>
    exact ⟨closed, fun destination mem => ((Schedule.mem_erase _ _ _).mp mem).2⟩
  | emptied => exact ⟨closed, fun destination mem => absurd mem Std.ExtTreeSet.not_mem_empty⟩

/-- Any number of stirs: a closed session stays so, and its queue gets no longer. -/
theorem stirs_of_closed (stirs : Relation.ReflTransGen (Stir deed) d d')
    (closed : d.session.closed = true) :
    d'.session.closed = true ∧ ∀ destination,
      destination ∈ d'.session.schedule.queue → destination ∈ d.session.schedule.queue := by
  -- the induction is on the stirs; that the session is still closed goes with it
  induction stirs with
  | refl => exact ⟨closed, fun _ => id⟩
  | tail past stir ih =>
    obtain ⟨stays, fewer⟩ := stir.of_closed ih.1
    exact ⟨stays, fun destination mem => ih.2 destination (fewer destination mem)⟩

/-- The objects that had local changes have them still, and the rows of objects are no others. -/
structure Lasts (deed : Deed) (d d' : Device) : Prop where
  rows : ∀ key bytes, d'.store.row? ⟨.configs, key⟩ = some bytes →
    d.store.row? ⟨.configs, key⟩ = some bytes
  dirty : ∀ handle, (d.session.object handle).dirty = true →
    (d'.session.object handle).dirty = true
  kept : deed.Calm → ∀ key, d'.store.row? ⟨.configs, key⟩ = d.store.row? ⟨.configs, key⟩

/-- Alike devices have the same rows and the same objects. -/
theorem Alike.lasts (alike : Alike d d') : Lasts deed d d' := by
  have row (cell : Cell) : d'.store.row? cell = d.store.row? cell := by
    unfold Store.row?
    rw [alike.rows]
  refine ⟨fun key bytes found => ?_, fun handle dirty => ?_, fun _ key => row _⟩
  · rw [row] at found
    exact found
  · rw [alike.object]
    exact dirty

/-- Operations that write no object. -/
theorem Chain.lasts (chain : Chain deed d d') (idle : ¬ deed.Stores) : Lasts deed d d' := by
  have other : ∀ scope, deed ≠ .confirm scope := by
    rintro scope rfl
    exact idle trivial
  -- the induction is on the chain, with the deed the same for all its effects
  induction chain with
  | refl => exact ⟨fun _ _ => id, fun _ => id, fun _ _ => rfl⟩
  | tail past effect ih =>
    refine ⟨fun key bytes row => ?_, fun handle dirty => ?_, fun calm key => ?_⟩
    · exact ih.rows key bytes ((effect.configs idle).1 bytes row)
    · exact effect.dirty other (ih.dirty handle dirty)
    · exact ((effect.configs idle).2 calm).trans (ih.kept calm key)

/-- Changing an object in memory. -/
theorem lasts_setObject {handle : Handle} {o : Object}
    (change : Object.Change .work (d.session.object handle) o) :
    Lasts deed d (d.setObject handle o) := by
  refine ⟨fun _ _ => id, fun i dirty => ?_, fun _ _ => rfl⟩
  have effect : Effect .work d (d.setObject handle o) := .changed trivial change
  exact effect.dirty nofun dirty

/-- An object that was handed out can be edited, also on a closed session. -/
theorem lasts_editObject {α : Type} {step : EditM α} (plan : EditM.Plan step) (handle : Handle)
    (time : Int64) (d : Device) :
    Lasts deed d (stateAfter (SessionM.editObject handle time step) d) := by
  have looks : SessionM.object handle d = .ok (d.session.object handle) d := rfl
  -- the copy at hand is edited with the entropy of the device; the session is not asked
  cases edited : (d.session.object handle).edit time d.entropy step with
  | error error =>
    have ran : SessionM.editObject handle time step d = .error error d := by
      unfold SessionM.editObject
      rw [bind_of_ok looks, bind_of_ok (show (get : SessionM Device) d = .ok d d from rfl), edited]
      rfl
    rw [stateAfter_of_error ran]
    exact (Alike.refl d).lasts
  | ok done =>
    have ran : SessionM.editObject handle time step d =
        .ok (done.object.seqno != (d.session.object handle).seqno, done.result)
          { d.setObject handle done.object with entropy := done.entropy } := by
      unfold SessionM.editObject
      rw [bind_of_ok looks, bind_of_ok (show (get : SessionM Device) d = .ok d d from rfl), edited]
      rfl
    rw [stateAfter_of_ok ran]
    have changed : Lasts deed d (d.setObject handle done.object) :=
      lasts_setObject (.edit plan time _ edited)
    exact ⟨changed.rows, changed.dirty, changed.kept⟩

/-- An object that was handed out can be merged into, also on a closed session. -/
theorem lasts_mergeObject (handle : Handle) (id : String) (data : Bytes) (d : Device) :
    Lasts deed d (stateAfter (SessionM.mergeObject handle id data) d) := by
  have looks : SessionM.object handle d = .ok (d.session.object handle) d := rfl
  -- as for an edit, the copy at hand is all that matters
  cases merged : (d.session.object handle).merge id data with
  | error error =>
    have ran : SessionM.mergeObject handle id data d = .error error d := by
      unfold SessionM.mergeObject
      rw [bind_of_ok looks, merged]
      rfl
    rw [stateAfter_of_error ran]
    exact (Alike.refl d).lasts
  | ok done =>
    obtain ⟨changed, o⟩ := done
    have ran : SessionM.mergeObject handle id data d = .ok changed (d.setObject handle o) := by
      unfold SessionM.mergeObject
      rw [bind_of_ok looks, merged]
      rfl
    rw [stateAfter_of_ok ran]
    exact lasts_setObject (.merge merged)

/-- An operation that fails leaves rows and objects alone. -/
theorem RefusedClosed.lasts {α : Type} {action : SessionM α} {asked : Option GroupId}
    (refused : d.RefusedClosed asked action) : Lasts deed d (stateAfter action d) := by
  obtain ⟨error, d', ran, -, alike, -⟩ := refused
  rw [stateAfter_of_error ran]
  exact alike.lasts

/-- **No operation stores an object** of a closed session, or makes one clean. -/
theorem lasts_of_closed {α : Type} {action : SessionM α} (operation : Operation deed action)
    (tidy : d.Tidy) (closed : d.session.closed = true) :
    Lasts deed d (stateAfter action d) := by
  have chain := operation.chain tidy
  have refused {asked : Option GroupId} (needs : NeedsOpen asked action) :
      Lasts deed d (stateAfter action d) :=
    (needs.refused closed).lasts
  -- those that need an object fail, two work on a copy at hand, and the others store nothing
  cases operation with
  | read variant scope => exact refused (.read variant scope)
  | accountObjects => exact refused .accountObjects
  | edit variant scope plan => exact refused (.edit variant scope _)
  | persist variant scope time => exact refused (.persist variant scope time)
  | persistGroup group time => exact refused (.persistGroup group time)
  | persistAll => exact refused .persistAll
  | merge variant scope updates time => exact refused (.merge variant scope updates time)
  | pendingPushes destination => exact refused (.pendingPushes destination)
  | confirm variant scope seqno hash => exact refused (.confirm variant scope seqno hash)
  | hasConversation visibleOnly name => exact refused (.hasConversation visibleOnly name)
  | editObject handle time plan => exact lasts_editObject plan handle time d
  | mergeObject handle id data => exact lasts_mergeObject handle id data d
  | _ => exact chain.lasts id

/-! ### Moves -/

/-- **A move**, of whoever has the session: an operation, on any copy of it; a turn of the loop; or
time that passes. What a flush does comes to operations. -/
inductive Move : Deed → Device → Device → Prop
  | operation {deed : Deed} {d : Device} {α : Type} {action : SessionM α}
      (operation : Operation deed action) (acts : deed ≠ .look) :
      Move deed d (stateAfter action d)
  | schedulePush {d : Device} (destination : Destination) :
      Move .look d (stateAfter (SessionM.schedulePush destination) d)
  | listen {d : Device} : Move .look d (stateAfter SessionM.listen d)
  | wrap {d : Device} (message : Bytes) (domain : String) (recipient : Identity)
      (group : Option GroupId) :
      Move .look d (stateAfter (SessionM.wrap message domain recipient group) d)
  | loop {d : Device} {schedule : Schedule} (turn : LoopTurn d.session.schedule schedule) :
      Move .look d (d.setSchedule schedule)
  | wait {d : Device} (clock : Int64) : Move .look d (d.atTime clock)

/-- A move for whatever purpose. -/
def AnyMove (d d' : Device) : Prop :=
  ∃ deed, Move deed d d'

/-- Any number of moves. -/
abbrev Moves : Device → Device → Prop :=
  Relation.ReflTransGen AnyMove

/-- **A move on a closed session.** -/
theorem Move.quiet (move : Move deed d d') (tidy : d.Tidy) (closed : d.session.closed = true) :
    d'.Tidy ∧ Quiet d d' ∧
      (deed.Calm → ∀ key, d'.store.row? ⟨.configs, key⟩ = d.store.row? ⟨.configs, key⟩) := by
  -- an operation keeps what is stored, and stirs only the queue
  have operated {deed : Deed} {α : Type} {action : SessionM α} (operation : Operation deed action)
      (stirs : Within (Stir deed) action) :
      (stateAfter action d).Tidy ∧ Quiet d (stateAfter action d) ∧ (deed.Calm → ∀ key,
        (stateAfter action d).store.row? ⟨.configs, key⟩ = d.store.row? ⟨.configs, key⟩) := by
    have lasts := lasts_of_closed operation tidy closed
    obtain ⟨stays, fewer⟩ := stirs_of_closed (stirs d) closed
    exact ⟨(operation.chain tidy).tidy tidy, ⟨stays, lasts.rows, lasts.dirty, fewer⟩, lasts.kept⟩
  cases move with
  | operation operation acts => exact operated operation (operation.stirs acts)
  | schedulePush destination =>
    exact operated (.schedulePush destination) (SessionM.stirs_schedulePush destination)
  | listen => exact operated .listen (SessionM.within_still fun _ => ⟨rfl, rfl⟩)
  | wrap message domain recipient group =>
    exact operated (.wrap message domain recipient group) (SessionM.stirs_wrap _ _ _ _)
  | @loop _ schedule turn =>
    refine ⟨tidy, ⟨closed, fun _ _ => id, fun _ => id, fun destination mem => ?_⟩, fun _ _ => rfl⟩
    -- the loop takes what is in the queue, and puts nothing in
    change destination ∈ schedule.queue at mem
    cases turn with
    | start => exact mem
    | stop => exact mem
    | rouse debounce now =>
      rw [Schedule.queue_rouse] at mem
      exact mem
    | take => exact absurd mem Std.ExtTreeSet.not_mem_empty
  | wait clock => exact ⟨tidy, ⟨closed, fun _ _ => id, fun _ => id, fun _ => id⟩, fun _ _ => rfl⟩

/-- Any number of moves on a closed session. -/
theorem quiet_of_moves (moves : Moves d d') (tidy : d.Tidy) (closed : d.session.closed = true) :
    d'.Tidy ∧ Quiet d d' := by
  -- the induction is on the moves, and carries tidiness along
  induction moves with
  | refl => exact ⟨tidy, .refl closed⟩
  | tail past step ih =>
    obtain ⟨deed, move⟩ := step
    obtain ⟨tidy', quiet, -⟩ := move.quiet ih.1 ih.2.closed
    exact ⟨tidy', ih.2.trans quiet⟩

end Device

/-! ### Flushes on a closed session -/

namespace OnlineM

open Device

variable {σ : Type}

/-- A flush that is about to begin comes to nothing. -/
theorem flush_of_closed (carrier : Carrier σ) (batch : List Destination) {online : Online σ}
    (closed : online.device.session.closed = true) :
    flush carrier batch online = .ok {} online := by
  -- nothing is stored first, for the session is closed
  have unstored := attempt_of_error (onDevice_of_error (SessionM.persistAll_of_closed closed))
  have unsent (destination : Destination) :=
    attempt_of_error (onDevice_of_error (SessionM.pendingPushes_of_closed closed destination))
  have passed : discard (attempt (onDevice SessionM.persistAll)) online = .ok () online :=
    discard_of_ok unstored
  unfold flush
  rw [bind_of_ok passed]
  -- with the first destination the sending ends
  cases batch with
  | nil => rfl
  | cons destination rest =>
    unfold sendAll
    exact bind_of_ok (unsent destination)

/-- A push that was under way when the session was closed is not taken note of. -/
theorem sendPush_of_closed (carrier : Carrier σ) (destination : Destination) (push : PendingPush)
    {online : Online σ}
    (closed : (stateAfter (carrier destination push) online).device.session.closed = true) :
    stateAfter (sendPush carrier destination push) online =
      stateAfter (carrier destination push) online := by
  unfold sendPush
  cases ran : carrier destination push online with
  | error error online' => rw [stateAfter_of_error ran, stateAfter_of_error (bind_of_error ran)]
  -- the push came back to a closed session, and the check that follows it fails
  | ok hash online' =>
    rw [stateAfter_of_ok ran] at closed
    have refused : onDevice SessionM.checkOpen online' = .error .sessionClosed online' :=
      onDevice_of_error (SessionM.checkOpen_of_closed closed)
    rw [stateAfter_bind_of_ok ran, stateAfter_of_ok ran]
    exact stateAfter_of_error (bind_of_error refused)

/-- **What the scheduler does is moves**, if what the network does meanwhile is: a flush, and the
loop while time passes. -/
theorem moves_of_scheduler {carrier : Carrier σ}
    (carries : ∀ destination push, Within (Leads AnyMove) (carrier destination push)) :
    (∀ batch, Within (Leads AnyMove) (flush carrier batch)) ∧
      ∀ time stop, Within (Leads AnyMove) (pass carrier time stop) := by
  -- each part of a flush is an operation, and each turn of the loop is a move
  have moves {deed : Deed} {α : Type} {action : SessionM α} (operation : Operation deed action)
      (acts : deed ≠ .look) : Within AnyMove action :=
    .step fun d => ⟨deed, .operation operation acts⟩
  have confirms (variant : Variant) (scope : Scope) (seqno : UInt64) (hash : String) :=
    moves (.confirm variant scope seqno hash) nofun
  have sends (destination : Destination) := moves (.pendingPushes destination) nofun
  have stores := moves .persistAll nofun
  exact ⟨within_flush carries confirms sends stores,
    within_pass carries confirms sends stores fun turn => ⟨_, .loop turn⟩⟩

end OnlineM

namespace Device

variable {d : Device}

/-- **A closed session stores nothing.** Whatever is done with the session after it was closed, by
operations on any copy of it and by the loop:

* no row of an object is written, no object becomes clean, and nothing is scheduled;
* rows of objects are deleted only where a group is removed or the session is wiped;
* operations that need an object fail, because the session is closed; those that ask first
  whether a group was removed may fail because it was, or because the marks cannot be read.

A flush comes to nothing then, and one whose push is under way takes no note of it; and all that
flushes and the loop ever do is of this kind. -/
theorem closed_session_stores_nothing (reached : d.Reached) (closed : d.session.closed = true)
    {d' : Device} (moves : Moves d d') :
    Quiet d d' ∧
    (∀ deed d'', Move deed d' d'' → ∀ key,
      d''.store.row? ⟨.configs, key⟩ ≠ d'.store.row? ⟨.configs, key⟩ →
        deed = .wipe ∨ ∃ group, deed = .remove group) ∧
    (∀ asked {α : Type} {action : SessionM α}, NeedsOpen asked action →
      d'.RefusedClosed asked action) ∧
    ∀ {σ : Type} (carrier : Carrier σ),
      (∀ batch network, OnlineM.flush carrier batch ⟨d', network⟩ = .ok {} ⟨d', network⟩) ∧
      (∀ destination push online, (stateAfter (carrier destination push) online).device = d' →
        (stateAfter (OnlineM.sendPush carrier destination push) online).device = d') ∧
      ((∀ destination push, Within (OnlineM.Leads AnyMove) (carrier destination push)) →
        (∀ batch, Within (OnlineM.Leads AnyMove) (OnlineM.flush carrier batch)) ∧
        ∀ time stop, Within (OnlineM.Leads AnyMove) (OnlineM.pass carrier time stop)) := by
  obtain ⟨tidy, quiet⟩ := quiet_of_moves moves reached.tidy closed
  have closed' : d'.session.closed = true := quiet.closed
  refine ⟨quiet, fun deed d'' move key changed => ?_, fun asked α action needs =>
    needs.refused closed', fun carrier => ⟨fun batch network => ?_,
      fun destination push online left => ?_, OnlineM.moves_of_scheduler⟩⟩
  · -- rows of objects change by two deeds only, of all the deeds there are
    obtain ⟨-, -, kept⟩ := move.quiet tidy closed'
    cases deed with
    | wipe => exact .inl rfl
    | remove group => exact .inr ⟨group, rfl⟩
    | _ => exact absurd (kept trivial key) changed
  · exact OnlineM.flush_of_closed carrier batch closed'
  · rw [OnlineM.sendPush_of_closed carrier destination push (by rw [left]; exact closed'), left]

/-- Contacts that were handed out are edited after the session was closed: they have local changes
that are not stored, and it stays at that. -/
theorem closed_session_stores_nothing_edited :
    ∃ d d', d.Reached ∧ d.session.closed = true ∧ Moves d d' ∧
      (d'.session.object 0).needsDump = true ∧ (d'.session.object 0).dirty = true ∧
      (∀ key, d'.store.row? ⟨.configs, key⟩ = d.store.row? ⟨.configs, key⟩) ∧
      d'.RefusedClosed none SessionM.persistAll := by
  let set (value : String) := EditM.set "contacts" "x" value
  let d₁ := stateAfter (SessionM.edit .contacts .account (set "1")) (fresh 5)
  let d := stateAfter SessionM.close d₁
  let d' := stateAfter (SessionM.editObject 0 6 (set "2")) d
  have reached : d.Reached :=
    (reached_fresh 5).trans <| ((Runs.refl _).act
      (.edit .contacts .account (.set "contacts" "x" "1")) trivial).act .close trivial
  have closed : d.session.closed = true := by rfl
  have move : Move .work d d' := .operation (.editObject 0 6 (.set "contacts" "x" "2")) nofun
  have moves : Moves d d' := .single ⟨.work, move⟩
  obtain ⟨-, deletes, -⟩ := closed_session_stores_nothing reached closed (.refl)
  obtain ⟨quiet, -, refuses, -⟩ := closed_session_stores_nothing reached closed moves
  refine ⟨d, d', reached, closed, moves, by decide +kernel, ?_, fun key => ?_,
    refuses none .persistAll⟩
  · -- the edit made the contacts dirty, and nothing since has made them clean
    exact quiet.dirty 0 (by decide +kernel)
  · -- an edit of a copy neither wipes nor removes, so the rows are the same
    by_contra changed
    rcases deletes .work d' move key changed with wiped | ⟨group, removed⟩
    · cases wiped
    · cases removed

/-- **Refused marks hide the closing.** On a closed session that has not read the removal marks yet,
storing an object of a group fails with the error of the store, if that refuses to give them. -/
theorem refused_marks_hide_closing :
    ∃ d d' : Device, d.Reached ∧ d.session.closed = true ∧
      SessionM.persist .groupInfo (.group someGroup) 9 d = .error (.storage "disk full") d' ∧
      Error.storage "disk full" ≠ .sessionClosed ∧
      Error.storage "disk full" ≠ .gone (.group someGroup) := by
  let fault (_ : List Access) (step : Access) : Option String :=
    if step = .read RemovalMarks.cell then some "disk full" else none
  let d₀ : Device := opened { fresh 5 with store := { fault } } fresh.ring {}
  let d := stateAfter SessionM.close d₀
  let persist := SessionM.persist .groupInfo (.group someGroup) 9
  have reached : d.Reached := ⟨_, _, _, (Runs.refl d₀).act .close trivial⟩
  have refused : persist d = .error (.storage "disk full") (stateAfter persist d) := by rfl
  exact ⟨d, stateAfter persist d, reached, rfl, refused, nofun, nofun⟩

end Device

end ConfigReplica
