import ConfigReplica.Proofs.Session.Announcements

/-!
# Removal marks follow the history

Whether a group counts as removed is looked up in a map that every removal and rejoin
of any group rewrites, prunes and stores, that a session reads when it first needs it,
and that the next session reads again. All the same the answer is one about the history
alone. A group counts as removed at a time exactly if the last thing done about it was a
removal, at most the retention ago (`Device.removed_iff_history`).

A history is a list of `Turn`s. The map need not agree with it everywhere: marks that
lapsed may be there still, or may be gone. It agrees where it matters, on the times that
are still within the retention (`RemovalMarks.Follows`), and these only become fewer as
time goes on. The invariant says so of the marks in memory and of those in the row
(`Device.Follows`). Three kinds of steps are looked at:

* a removal and a rejoin change both, by one turn (`Device.Follows.removeGroup`,
  `Device.Follows.rejoinGroup`);
* all other operations at most read the marks (`Device.Effect.follows`);
* a new session forgets what was in memory and relies on the row.
-/

namespace ConfigReplica

open Config SessionM

/-! ### Histories -/

/-- A group was removed, at a time, or rejoined. -/
inductive Turn where
  | removed (group : GroupId) (time : Int64)
  | rejoined (group : GroupId)
  deriving DecidableEq, Repr

namespace Turn

/-- The group that a turn is about. -/
def group : Turn → GroupId
  | .removed group _ => group
  | .rejoined group => group

/-- The last turn of a group. Turns are listed the latest first. -/
def last (turns : List Turn) (group : GroupId) : Option Turn :=
  turns.find? fun turn => turn.group = group

/-- The marks after a turn. -/
def mark : Turn → RemovalMarks → RemovalMarks
  | .removed group time, marks => marks.insert group time
  | .rejoined group, marks => marks.erase group

/-- Removals are made at their time. -/
def At (now : Int64) : Turn → Prop
  | .removed _ time => time = now
  | .rejoined _ => True

/-- The last turn of a group, in a history that is one turn longer. -/
theorem last_cons (turn : Turn) (turns : List Turn) (group : GroupId) :
    last (turn :: turns) group = if turn.group = group then some turn else last turns group := by
  unfold last
  rw [List.find?_cons]
  by_cases mine : turn.group = group <;> simp [mine]

/-- The last turn of a group stands in the history. -/
theorem mem_of_last {turns : List Turn} {group : GroupId} {turn : Turn}
    (latest : last turns group = some turn) : turn ∈ turns :=
  List.mem_of_find?_eq_some latest

end Turn

namespace RemovalMarks

/-- **The marks agree with a history** on the times from some time on. -/
def Follows (marks : RemovalMarks) (since : Int64) (turns : List Turn) : Prop :=
  ∀ group time, since ≤ time →
    (marks[group]? = some time ↔ Turn.last turns group = some (.removed group time))

variable {marks : RemovalMarks} {since since' : Int64} {turns : List Turn}

/-- No marks go with an empty history. -/
theorem follows_nil (since : Int64) : Follows ∅ since [] := by
  intro group time _
  simp [Turn.last]

/-- Less needs to agree as time goes on. -/
theorem Follows.later (follows : marks.Follows since turns) (le : since ≤ since') :
    marks.Follows since' turns :=
  fun group time stands => follows group time (Int64.le_trans le stands)

/-- A turn changes the marks as it changes the history. What is dropped with it has lapsed. -/
theorem Follows.turn (follows : marks.Follows since turns) (turn : Turn) :
    Follows ((turn.mark marks).filter fun _ time => since ≤ time) since (turn :: turns) := by
  intro group time stands
  -- the mark that is asked for has not lapsed, so dropping the lapsed ones does not touch it
  have kept : ((turn.mark marks).filter fun _ time => since ≤ time)[group]? = some time ↔
      (turn.mark marks)[group]? = some time := by
    rw [Std.ExtTreeMap.getElem?_filter', Option.filter_eq_some_iff]
    exact and_iff_left (decide_eq_true stands)
  rw [kept, Turn.last_cons]
  cases turn with
  | removed other t =>
    -- a turn of the group itself decides; one of another group leaves its mark alone
    by_cases mine : other = group
    · subst mine
      simp [Turn.mark, Turn.group]
    · simpa [Turn.mark, Turn.group, Std.ExtTreeMap.getElem?_insert, mine] using
        follows group time stands
  | rejoined other =>
    by_cases mine : other = group
    · subst mine
      simp [Turn.mark, Turn.group]
    · simpa [Turn.mark, Turn.group, Std.ExtTreeMap.getElem?_erase, mine] using
        follows group time stands

end RemovalMarks

/-! ### What does not concern the marks -/

/-- The deeds that leave the removal marks as they are. -/
def Deed.KeepsMarks : Deed → Prop
  | .remove _ | .rejoin _ | .wipe => False
  | _ => True

namespace Device

variable {deed : Deed} {d d' : Device} {retention : Nat} {turns : List Turn}
  {marks others : RemovalMarks}

/-- The marks are as before, and so is all that they depend on. -/
structure MarksKept (d d' : Device) : Prop where
  removed : d'.session.removed = d.session.removed := by rfl
  row : d'.store.row? RemovalMarks.cell = d.store.row? RemovalMarks.cell := by rfl
  settings : d'.session.settings = d.session.settings := by rfl
  fault : d'.store.fault = d.store.fault := by rfl
  clock : d'.clock = d.clock := by rfl

theorem MarksKept.trans {d'' : Device} (first : MarksKept d d') (second : MarksKept d' d'') :
    MarksKept d d'' where
  removed := second.removed.trans first.removed
  row := second.row.trans first.row
  settings := second.settings.trans first.settings
  fault := second.fault.trans first.fault
  clock := second.clock.trans first.clock

/-- Writing another row leaves the row of the marks alone. -/
theorem row?_setRow_other {cell : Cell} (other : RemovalMarks.cell ≠ cell) (bytes : Bytes) :
    (d.setRow cell bytes).store.row? RemovalMarks.cell = d.store.row? RemovalMarks.cell := by
  rw [row?_setRow, if_neg other]

/-- Deleting another row leaves the row of the marks alone. -/
theorem row?_eraseRow_other {cell : Cell} (other : RemovalMarks.cell ≠ cell) :
    (d.eraseRow cell).store.row? RemovalMarks.cell = d.store.row? RemovalMarks.cell := by
  rw [row?_eraseRow, if_neg other]

/-- **All that is done with the marks** by deeds that are not about them is to read them. -/
theorem Effect.marks_cases (effect : Effect deed d d') (keeps : deed.KeepsMarks) :
    MarksKept d d' ∨
      ∃ marks, d.session.removed = none ∧ d.MarksStored marks ∧ d' = d.setMarks marks := by
  -- only removing and rejoining come with a change of the marks
  have remarks {time : Int64} {f : RemovalMarks → RemovalMarks} : ¬ deed.Remarks time f := by
    rintro ⟨_⟩ <;> exact keeps
  cases effect with
  | aside same =>
    refine .inl ⟨same.removed, ?_, same.settings, same.fault, same.clock⟩
    unfold Store.row?
    rw [same.rows]
  | recalled unread stored => exact .inr ⟨_, unread, stored, rfl⟩
  | remarked change => exact absurd change remarks
  | markSaved change => exact absurd change remarks
  -- rows of watermarks and objects are other rows than the one of the marks
  | watermarkSaved variant bytes =>
    exact .inl { row := row?_setRow_other (by simp [RemovalMarks.cell]) bytes }
  | stored stores object placed time live present =>
    exact .inl { row := row?_setRow_other (by simp [RemovalMarks.cell, Scope.cell]) _ }
  | rowDeleted variant mine vacant =>
    exact .inl { row := row?_eraseRow_other (by simp [RemovalMarks.cell, Scope.cell]) }
  -- what is left is done by a wipe alone, or touches neither the marks nor the row
  | evicted => exact keeps.elim
  | destroyed => exact keeps.elim
  | cleared => exact keeps.elim
  | otherDeleted => exact keeps.elim
  | forgot => exact keeps.elim
  | _ => exact .inl {}

/-! ### The invariant -/

/-- The row of the marks was written with these, or there is no row and there are none. -/
def MarksSaved (d : Device) (marks : RemovalMarks) : Prop :=
  match d.store.row? RemovalMarks.cell with
  | none => marks = ∅
  | some bytes => bytes = RemovalMarks.codec.write marks

/-- Marks that were saved are read back, unless the row is too long for any machine. -/
theorem MarksSaved.stored (saved : d.MarksSaved marks)
    (short : ∀ bytes ∈ d.store.row? RemovalMarks.cell, bytes.length < UInt64.size) :
    d.MarksStored marks := by
  unfold MarksSaved at saved
  unfold MarksStored
  split
  · -- no row was written, so there are no marks
    next none =>
    rw [none] at saved
    exact saved
  · next bytes some =>
    rw [some] at saved
    obtain rfl := saved
    exact Codec.decode_write RemovalMarks.faithful_codec marks (short _ some)

/-- A row holds one set of marks only. -/
theorem MarksStored.unique (stored : d.MarksStored marks) (stored' : d.MarksStored others) :
    marks = others := by
  unfold MarksStored at stored stored'
  split at stored
  · next none =>
    rw [none] at stored'
    exact stored.trans stored'.symm
  · next bytes some =>
    rw [some] at stored'
    exact Except.ok.inj (stored.symm.trans stored')

/-- **The marks agree with the history** on what has not lapsed, in memory and in the row; and the
row can be read where it has to be. -/
structure Follows (d : Device) (retention : Nat) (turns : List Turn) : Prop where
  tidy : d.Tidy
  works : d.store.Works
  retained : d.session.settings.retention = retention
  begun : 0 ≤ d.clock
  past : ∀ {group time}, Turn.removed group time ∈ turns → 0 ≤ time ∧ time ≤ d.clock
  known : ∀ marks, d.session.removed = some marks → marks.Follows d.cutoff turns
  saved : ∃ marks, d.MarksSaved marks ∧ marks.Follows d.cutoff turns ∧
    (d.session.removed = none → d.MarksStored marks)

/-- What leaves the marks alone leaves them in agreement. -/
theorem Follows.of_kept (follows : d.Follows retention turns) (kept : MarksKept d d')
    (tidy : d'.Tidy) : d'.Follows retention turns := by
  obtain ⟨-, works, retained, begun, past, known, saved⟩ := follows
  unfold MarksSaved MarksStored cutoff at *
  refine ⟨tidy, ?_, ?_, ?_, ?_, ?_, ?_⟩
  · -- a store that works goes on working, for its faults are the same
    intro steps step
    rw [kept.fault]
    exact works steps step
  · rwa [kept.settings]
  · rwa [kept.clock]
  · rwa [kept.clock]
  · -- memory and row are the same, and so is the cutoff
    unfold cutoff
    rwa [kept.removed, kept.clock, kept.settings]
  · unfold MarksSaved MarksStored cutoff
    rwa [kept.removed, kept.row, kept.clock, kept.settings]

/-- **What is not about the marks leaves them in agreement.** Those that are read from the row agree
because the row does. -/
theorem Effect.follows (effect : Effect deed d d') (keeps : deed.KeepsMarks)
    (follows : d.Follows retention turns) : d'.Follows retention turns := by
  have tidy := effect.tidy follows.tidy
  rcases effect.marks_cases keeps with kept | ⟨marks, unread, stored, rfl⟩
  · exact follows.of_kept kept tidy
  · obtain ⟨m, saved, agrees, readable⟩ := follows.saved
    -- a row decodes to one set of marks, so the ones read are the ones that agree
    obtain rfl : m = marks := (readable unread).unique stored
    refine ⟨tidy, follows.works, follows.retained, follows.begun, follows.past, ?_, ?_⟩
    · rintro _ ⟨rfl⟩
      exact agrees
    · exact ⟨m, saved, agrees, nofun⟩

/-! ### Reading the marks -/

/-- The marks can be read, and agree with the history. -/
theorem Follows.reads_marks (follows : d.Follows retention turns) :
    ∃ known d', SessionM.marks d = .ok known d' ∧ d'.session.removed = some known ∧
      d'.clock = d.clock ∧ d'.Follows retention turns ∧ known.Follows d.cutoff turns := by
  have reads : ∃ known d', SessionM.marks d = .ok known d' := by
    -- marks that are in memory are at hand; others are in the row, which can be read
    cases known : d.session.removed with
    | some marks => exact ⟨marks, d, marks_of_known known⟩
    | none =>
      obtain ⟨marks, -, -, readable⟩ := follows.saved
      exact ⟨marks, _, marks_of_stored known (follows.works _ _) (readable known)⟩
  obtain ⟨known, d', ran⟩ := reads
  -- reading the marks is a chain of effects, none of which is about the marks
  have does : Does .look (fun _ => True) SessionM.marks _ := does_marks
  have chain := does.chain follows.tidy trivial
  rw [stateAfter_of_ok ran] at chain
  have clock : d'.clock = d.clock :=
    chain.keeps (fun effect same => effect.steady.1.trans same) rfl
  have cutoff : d'.cutoff = d.cutoff :=
    chain.keeps (fun effect same => effect.cutoff_eq.trans same) rfl
  have follows' : d'.Follows retention turns :=
    chain.keeps (fun effect => effect.follows trivial) follows
  have read := does.post follows.tidy trivial ran
  exact ⟨known, d', ran, read, clock, follows', cutoff ▸ follows'.known known read⟩

/-! ### Turns -/

/-- **Changing the marks by a turn** succeeds, and they agree with the longer history. -/
theorem Follows.updateMarks (follows : d.Follows retention turns) (turn : Turn)
    (now : turn.At d.clock) :
    ∃ d', SessionM.updateMarks turn.mark d = .ok () d' ∧ d'.Follows retention (turn :: turns) := by
  -- the marks are read first; the marks read agree with the history so far
  obtain ⟨known, d₁, ran, -, clock, ⟨tidy, works, retained, begun, past, -⟩, agrees⟩ :=
    follows.reads_marks
  let after := (turn.mark known).filter fun _ time => d.cutoff ≤ time
  let d₂ := ((d₁.setMarks after).noted (.write RemovalMarks.cell)).setRow RemovalMarks.cell
    (RemovalMarks.codec.write after)
  have done : SessionM.updateMarks turn.mark d = .ok () d₂ := by
    -- the store works, so the new row is written
    rw [updateMarks_of_marks ran]
    dsimp only
    rw [works]
  have agrees' : RemovalMarks.Follows after d₂.cutoff (turn :: turns) := by
    have still : d₂.cutoff = d.cutoff := (alike_of_marks ran).cutoff_eq
    rw [still]
    exact agrees.turn turn
  refine ⟨d₂, done, tidy, works, retained, begun, ?_, ?_, ?_⟩
  · -- only a removal has a time, and that is the time on the clock
    intro group time mem
    rcases List.mem_cons.mp mem with rfl | before
    · obtain rfl : time = d.clock := now
      rw [← clock]
      exact ⟨begun, Int64.le_refl _⟩
    · exact past before
  · -- memory holds the new marks
    rintro _ ⟨rfl⟩
    exact agrees'
  · -- and the row was written with the same ones
    refine ⟨after, ?_, agrees', nofun⟩
    unfold MarksSaved
    rw [row?_setRow, if_pos rfl]

/-- A group that rejoins: the marks agree with the history in which it did. -/
theorem Follows.rejoinGroup (follows : d.Follows retention turns) (group : GroupId) :
    ∃ d', SessionM.rejoinGroup group d = .ok () d' ∧
      d'.Follows retention (.rejoined group :: turns) :=
  follows.updateMarks (.rejoined group) trivial

/-- Over a store that works, an action succeeds and leaves the marks as they are. -/
def Spares (action : SessionM PUnit) : Prop :=
  ∀ d : Device, d.store.Works → ∃ d', action d = .ok ⟨⟩ d' ∧ MarksKept d d'

/-- Two actions that leave the marks as they are, one after the other. -/
theorem Spares.bind {first next : SessionM PUnit} (spares : Spares first) (more : Spares next) :
    Spares (first >>= fun _ => next) := by
  intro d works
  obtain ⟨d₁, ran, kept⟩ := spares d works
  obtain ⟨d₂, ran', kept'⟩ := more d₁ (works.of_fault kept.fault)
  exact ⟨d₂, (bind_of_ok ran).trans ran', kept.trans kept'⟩

/-- Going through a list with actions that leave the marks as they are. -/
theorem Spares.forM {γ : Type} {f : γ → SessionM PUnit} (items : List γ)
    (each : ∀ x, Spares (f x)) : Spares (items.forM f) := by
  induction items with
  | nil => exact fun d _ => ⟨d, rfl, {}⟩
  | cons x items ih => exact (each x).bind ih

/-- Deleting the row of an object leaves the marks as they are. -/
theorem spares_deleteRow (scope : Scope) (variant : Variant) :
    Spares (deleteRow scope variant) := by
  intro d works
  have ran := onStore_delete .configs (scope.slotKey variant) d
  rw [works] at ran
  exact ⟨_, ran, { row := row?_eraseRow_other (by simp [RemovalMarks.cell]) }⟩

/-- A group that is removed: the marks agree with the history in which it was. After the marks are
changed, its objects are ended and their rows deleted. -/
theorem Follows.removeGroup (follows : d.Follows retention turns) (group : GroupId) :
    ∃ d', SessionM.removeGroup group d = .ok () d' ∧
      d'.Follows retention (.removed group d.clock :: turns) := by
  obtain ⟨d₁, marked, follows₁⟩ := follows.updateMarks (.removed group d.clock) rfl
  -- the slot is taken out of the session before its objects are destroyed one by one
  let slot := d₁.session.slot (.group group)
  let d₂ : Device := { d₁ with session := { d₁.session with
    slots := d₁.session.slots.erase (.group group) } }
  -- no step for a variant touches the marks, whether an object is loaded or not
  have each (variant : Variant) : Spares (do
      slot[variant]?.forM destroyObject
      deleteRow (.group group) variant) := by
    refine Spares.bind ?_ (spares_deleteRow _ variant)
    cases slot[variant]? with
    | none => exact fun d _ => ⟨d, rfl, {}⟩
    | some handle => exact fun d _ => ⟨_, rfl, {}⟩
  have ending : Spares (modifySchedule fun s => s.erase (.closedGroup group)) :=
    fun d _ => ⟨_, rfl, {}⟩
  obtain ⟨d', ran, kept⟩ := (Spares.forM Variant.ofGroup each).bind ending d₂ follows₁.works
  -- that no handle dangles comes of the operation as a whole
  have done : SessionM.removeGroup group d = .ok () d' := (bind_of_ok marked).trans ran
  have tidy : d'.Tidy := by
    have chain := (Operation.removeGroup group).chain follows.tidy
    rw [stateAfter_of_ok done] at chain
    exact chain.tidy follows.tidy
  exact ⟨d', done, follows₁.of_kept (MarksKept.trans {} kept) tidy⟩

/-! ### Runs with their history -/

/-- What is done between two turns: anything but removing, rejoining and wiping. -/
def meanwhile : Terms where
  deed _ deed := deed.KeepsMarks
  wait _ := False
  reopen _ := False

/-- **A run and its history.** It begins with a session over a store that works and has no marks. Time
does not go back. Sessions are opened again with the retention of the first, over a row of marks that
fits into memory. -/
inductive Chronicle (retention : Nat) : Device → List Turn → Prop
  | start (d : Device) (ring : Seal.Keyring) (settings : Settings) (works : d.store.Works)
      (unmarked : d.store.row? RemovalMarks.cell = none) (begun : 0 ≤ d.clock)
      (retained : settings.retention = retention) : Chronicle retention (d.opened ring settings) []
  | work {d d' : Device} {turns : List Turn} (past : Chronicle retention d turns)
      (run : Runs meanwhile d d') : Chronicle retention d' turns
  | remove {d : Device} {turns : List Turn} (past : Chronicle retention d turns)
      (group : GroupId) :
      Chronicle retention (stateAfter (SessionM.removeGroup group) d)
        (.removed group d.clock :: turns)
  | rejoin {d : Device} {turns : List Turn} (past : Chronicle retention d turns)
      (group : GroupId) :
      Chronicle retention (stateAfter (SessionM.rejoinGroup group) d) (.rejoined group :: turns)
  | wait {d : Device} {turns : List Turn} (past : Chronicle retention d turns) (clock : Int64)
      (later : d.clock ≤ clock) : Chronicle retention (d.atTime clock) turns
  | reopen {d : Device} {turns : List Turn} (past : Chronicle retention d turns)
      (ring : Seal.Keyring) (settings : Settings) (retained : settings.retention = retention)
      (short : ∀ bytes ∈ d.store.row? RemovalMarks.cell, bytes.length < UInt64.size) :
      Chronicle retention (d.opened ring settings) turns

/-- What is done between two turns keeps the agreement. -/
theorem Follows.runs (follows : d.Follows retention turns) (run : Runs meanwhile d d') :
    d'.Follows retention turns :=
  (run.keeps (P := fun d => d.Follows retention turns) follows.tidy
    (fun keeps _ effect => effect.follows keeps) (fun never => never.elim)
    (fun never => never.elim) follows).2

/-- Time makes less of the history matter. -/
theorem Follows.wait (follows : d.Follows retention turns) {clock : Int64}
    (later : d.clock ≤ clock) : (d.atTime clock).Follows retention turns := by
  obtain ⟨tidy, works, retained, begun, past, known, marks, saved, agrees, readable⟩ := follows
  -- a later clock has a later cutoff, which leaves fewer times to agree on
  have le : d.cutoff ≤ (d.atTime clock).cutoff := cutoff_mono later _
  refine ⟨tidy, works, retained, Int64.le_trans begun later, ?_, ?_, ?_⟩
  · intro group time mem
    exact ⟨(past mem).1, Int64.le_trans (past mem).2 later⟩
  · intro marks read
    exact (known marks read).later le
  · exact ⟨marks, saved, agrees.later le, readable⟩

/-- A session that is opened again has no marks in memory, and reads the row when it needs to. -/
theorem Follows.reopen (follows : d.Follows retention turns) (ring : Seal.Keyring)
    {settings : Settings} (retained : settings.retention = retention)
    (short : ∀ bytes ∈ d.store.row? RemovalMarks.cell, bytes.length < UInt64.size) :
    (d.opened ring settings).Follows retention turns := by
  obtain ⟨-, works, before, begun, past, -, marks, saved, agrees, -⟩ := follows
  -- the retention is the same one, and so is the cutoff
  have same : (d.opened ring settings).cutoff = d.cutoff := by
    change ConfigReplica.cutoff d.clock settings.retention = _
    rw [retained, ← before]
    rfl
  refine ⟨tidy_opened _ _ _, works, retained, begun, past, nofun, marks, saved, same ▸ agrees, ?_⟩
  intro _
  exact saved.stored short

/-- **Marks follow the history** along every run. -/
theorem Chronicle.follows (run : Chronicle retention d turns) : d.Follows retention turns := by
  induction run with
  -- the induction is on the run; an opened device has neither marks nor turns
  | start d ring settings works unmarked begun retained =>
    have saved : d.MarksSaved ∅ := by
      unfold MarksSaved
      rw [unmarked]
    have stored : d.MarksStored ∅ := by
      unfold MarksStored
      rw [unmarked]
    exact ⟨tidy_opened _ _ _, works, retained, begun, nofun, nofun,
      ∅, saved, RemovalMarks.follows_nil _, fun _ => stored⟩
  | work past run ih => exact ih.runs run
  -- a turn that is made over a store that works succeeds, so its device is the one it leaves
  | remove past group ih =>
    obtain ⟨d', ran, follows⟩ := ih.removeGroup group
    rwa [stateAfter_of_ok ran]
  | rejoin past group ih =>
    obtain ⟨d', ran, follows⟩ := ih.rejoinGroup group
    rwa [stateAfter_of_ok ran]
  | wait past clock later ih => exact ih.wait later
  | reopen past ring settings retained short ih => exact ih.reopen ring retained short

end Device

namespace SessionM

open Device

variable {α β : Type} {d : Device} {scope : Scope} {variant : Variant}

/-! ### Merges into a group -/

/-- An action that does not fail because a scope is gone. -/
def Unrefused (action : SessionM α) : Prop :=
  ∀ d error d', action d = .error error d' → ∀ scope, error ≠ .gone scope

namespace Unrefused

/-- Two actions that are not refused, one after the other. -/
theorem bind {first : SessionM α} {next : α → SessionM β} (unrefused : Unrefused first)
    (more : ∀ x, Unrefused (next x)) : Unrefused (first >>= next) := by
  intro d error d' failed
  cases ran : first d with
  | ok x d₁ =>
    rw [bind_of_ok ran] at failed
    exact more x d₁ error d' failed
  | error error₁ d₁ =>
    cases (bind_of_error ran).symm.trans failed
    exact unrefused d error d' ran

theorem ofOk {action : SessionM α} {f : Device → α} {g : Device → Device}
    (succeeds : ∀ d, action d = .ok (f d) (g d)) : Unrefused action := by
  intro d error d' failed
  cases (succeeds d).symm.trans failed

/-- A known outcome is not refused if its error is another one. -/
theorem ofExcept {outcome : Except Error α}
    (other : ∀ error, outcome = .error error → ∀ scope, error ≠ .gone scope) :
    Unrefused (SessionM.ofExcept outcome) := by
  intro d error d' failed
  cases outcome with
  | ok x => cases failed
  | error first =>
    cases failed
    exact other _ rfl

end Unrefused

/-- The check of the session fails because the session is closed, never because of a scope. -/
theorem unrefused_checkOpen : Unrefused checkOpen := by
  unfold checkOpen
  refine Unrefused.bind (.ofOk session_eq) fun s => ?_
  cases s.closed with
  | false => exact .ofOk fun d => rfl
  | true =>
    rintro d error d' ⟨⟩ scope
    exact nofun

/-- A row is refused by the store or cannot be decoded. -/
theorem unrefused_load {γ : Type} (codec : Codec γ) (table : Table) (key : String) :
    Unrefused (onStore (StoreM.load codec table key)) := by
  intro d error d' failed scope
  unfold onStore StoreM.load at failed
  have got := StoreM.get?_eq table key d.store
  -- either the store lets the row be read, or it answers with an error of its own
  split at got
  · rw [bind_of_ok got] at failed
    cases row : d.store.row? ⟨table, key⟩ with
    | none =>
      rw [row] at failed
      cases failed
    | some bytes =>
      rw [row] at failed
      -- of a row that is there only the decoding can fail
      cases decoded : codec.decode bytes with
      | ok value =>
        simp only [decoded] at failed
        cases failed
      | error fault =>
        simp only [decoded] at failed
        cases failed
        exact nofun
  · rw [bind_of_error got] at failed
    cases failed
    exact nofun

/-- **A lookup is never refused**: it fails for the session, the variant or the row. -/
theorem unrefused_find (variant : Variant) (scope : Scope) : Unrefused (find variant scope) := by
  -- a dump that cannot be loaded is a broken dump
  have loads (stored : StoredObject) : Unrefused
      (SessionM.ofExcept (Object.load variant scope stored.dump)) := by
    refine .ofExcept fun error failed => ?_
    unfold Object.load at failed
    repeat' split at failed
    all_goals cases failed
    all_goals exact nofun
  -- a variant that does not go with the scope is an error of its own
  have fits : Unrefused (SessionM.ofExcept (scope.check variant)) := by
    refine .ofExcept fun error failed => ?_
    unfold Scope.check at failed
    split at failed <;> cases failed
    exact nofun
  unfold find
  refine unrefused_checkOpen.bind fun _ => fits.bind fun _ => Unrefused.bind (.ofOk session_eq)
    fun s => ?_
  split
  · -- a known handle is given, else the object is loaded
    exact .ofOk fun d => rfl
  · refine Unrefused.bind (.ofOk fun d => rfl) fun _ =>
      Unrefused.bind ?_ fun o => .ofOk fun d => rfl
    unfold loadObject
    refine (unrefused_load _ _ _).bind fun stored => ?_
    cases stored with
    | none => exact .ofOk fun d => rfl
    | some stored => exact (loads stored).bind fun o => .ofOk fun d => rfl

/-- **Merges are refused by the check of the scope alone.** -/
theorem merge_gone_iff (tidy : d.Tidy) (updates : List Update) (time : Int64) :
    (∃ d', merge variant scope updates time d = .error (.gone scope) d') ↔
      ∃ d', checkPresent scope d = .error (.gone scope) d' := by
  constructor
  · -- a merge that was refused was refused by the check, for neither lookup nor storing says so
    rintro ⟨d', failed⟩
    obtain ⟨d₁, -, checked | ⟨error, refused⟩⟩ := checkPresent_cases scope d
    · cases found : find variant scope d₁ with
      | error error d₂ =>
        -- a lookup fails for other reasons
        have same : merge variant scope updates time d = .error error d₂ :=
          (bind_of_ok checked).trans (bind_of_error found)
        cases failed.symm.trans same
        exact absurd rfl (unrefused_find variant scope d₁ _ _ found scope)
      | ok handle d₂ =>
        -- a merge that got as far as the object reports, or fails on the store
        have reaches := reaches_of_found tidy checked found
        obtain ⟨d₃, merges⟩ := merges_of_reaches reaches updates time
        rcases merges.outcome with ⟨report, ran, -⟩ | ⟨text, stored, -⟩
        · cases failed.symm.trans ran
        · cases failed.symm.trans stored
    · -- the check itself refused
      cases failed.symm.trans (bind_of_error refused)
      exact ⟨_, refused⟩
  · -- conversely, the check comes first
    rintro ⟨d', refused⟩
    exact ⟨d', bind_of_error refused⟩

end SessionM

namespace Device

variable {d d' : Device} {retention : Nat} {turns : List Turn} {group : GroupId}

/-- A merge into the group is refused because the group was removed. -/
def RefusesMerge (d : Device) (group : GroupId) (variant : Variant) (updates : List Update)
    (time : Int64) : Prop :=
  ∃ d', merge variant (.group group) updates time d = .error (.gone (.group group)) d'

/-- What is done without a turn of the group. -/
inductive Elsewhere (group : GroupId) (d : Device) : Device → Prop
  | work {d' : Device} (run : Runs meanwhile d d') : Elsewhere group d d'
  | remove {other : GroupId} (differs : other ≠ group) :
      Elsewhere group d (stateAfter (SessionM.removeGroup other) d)
  | rejoin {other : GroupId} (differs : other ≠ group) :
      Elsewhere group d (stateAfter (SessionM.rejoinGroup other) d)

/-- Operations take no time. -/
theorem clock_stateAfter {deed : Deed} {α : Type} {action : SessionM α}
    (operation : Operation deed action) (tidy : d.Tidy) : (stateAfter action d).clock = d.clock :=
  (operation.chain tidy).keeps (fun effect same => effect.steady.1.trans same) rfl

/-- What is done elsewhere adds no turn of the group. -/
theorem Elsewhere.chronicle (elsewhere : Elsewhere group d d') (run : Chronicle retention d turns) :
    d'.clock = d.clock ∧ ∃ turns', Chronicle retention d' turns' ∧
      Turn.last turns' group = Turn.last turns group := by
  have tidy := run.follows.tidy
  cases elsewhere with
  | work goesOn =>
    refine ⟨?_, turns, run.work goesOn, rfl⟩
    exact (goesOn.keeps (P := fun d₁ => d₁.clock = d.clock) tidy
      (fun _ _ effect same => effect.steady.1.trans same) (fun never => never.elim)
      (fun never => never.elim) rfl).2
  | remove differs =>
    refine ⟨clock_stateAfter (.removeGroup _) tidy, _, run.remove _, ?_⟩
    rw [Turn.last_cons]
    exact if_neg differs
  | rejoin differs =>
    refine ⟨clock_stateAfter (.rejoinGroup _) tidy, _, run.rejoin _, ?_⟩
    rw [Turn.last_cons]
    exact if_neg differs

/-- What the check of a group looks up is what the history says. -/
theorem Chronicle.refusesMerge_iff (run : Chronicle retention d turns) (variant : Variant)
    (updates : List Update) (time : Int64) :
    d.RefusesMerge group variant updates time ↔
      ∃ s, Turn.last turns group = some (.removed group s) ∧
        d.clock.toInt - s.toInt ≤ retention := by
  have follows := run.follows
  obtain ⟨known, d₁, ran, -, -, -, agrees⟩ := follows.reads_marks
  -- marks that are looked up may lack those before the cutoff, but no such mark counts
  have marked : (known[group]?.any fun time => d.cutoff ≤ time) = true ↔
      ∃ s, Turn.last turns group = some (.removed group s) ∧ d.cutoff ≤ s := by
    simp only [Option.any_eq_true, decide_eq_true_eq]
    constructor
    · rintro ⟨s, mark, stands⟩
      exact ⟨s, (agrees group s stands).mp mark, stands⟩
    · rintro ⟨s, latest, stands⟩
      exact ⟨s, (agrees group s stands).mpr latest, stands⟩
  -- the removal is not in the future and times begin at zero, so the cutoff is that of the integers
  have lasts {s : Int64} (latest : Turn.last turns group = some (.removed group s)) :
      d.cutoff ≤ s ↔ d.clock.toInt - s.toInt ≤ retention := by
    obtain ⟨begun, past⟩ := follows.past (Turn.mem_of_last latest)
    unfold Device.cutoff
    rw [follows.retained]
    exact cutoff_le_iff begun past retention
  unfold RefusesMerge
  rw [merge_gone_iff follows.tidy, checkPresent_of_marks ran]
  -- whether the check refuses is now a question about the marks alone
  by_cases refused : (known[group]?.any fun time => d.cutoff ≤ time) = true
  · rw [if_pos refused]
    obtain ⟨s, latest, stands⟩ := marked.mp refused
    exact ⟨fun _ => ⟨s, latest, (lasts latest).mp stands⟩, fun _ => ⟨_, rfl⟩⟩
  · rw [if_neg refused]
    refine ⟨nofun, ?_⟩
    rintro ⟨s, latest, stands⟩
    exact absurd (marked.mpr ⟨s, latest, (lasts latest).mpr stands⟩) refused

/-- **A group counts as removed** exactly if its last turn was a removal, at most the retention ago.
What is done meanwhile, and what is done about other groups, makes no difference. -/
theorem removed_iff_history {d : Device} {retention : Nat} {turns : List Turn}
    (run : Chronicle retention d turns) (group : GroupId) (variant : Variant)
    (updates : List Update) (time : Int64) :
    (d.RefusesMerge group variant updates time ↔
      ∃ s, Turn.last turns group = some (.removed group s) ∧
        d.clock.toInt - s.toInt ≤ retention) ∧
    ∀ d', Elsewhere group d d' →
      (d'.RefusesMerge group variant updates time ↔ d.RefusesMerge group variant updates time) := by
  refine ⟨run.refusesMerge_iff variant updates time, fun d' elsewhere => ?_⟩
  obtain ⟨clock, turns', run', last⟩ := elsewhere.chronicle run
  rw [run.refusesMerge_iff, run'.refusesMerge_iff, clock, last]

/-- A group was removed, another one rejoined, and the session opened again. The group counts as
removed up to two weeks after its removal, and no longer. -/
theorem removed_iff_history_reopened :
    ∃ d d' : Device, d.clock = 1209600005 ∧ d'.clock = 1209600006 ∧
      (∃ turns, Chronicle twoWeeks d turns ∧ Chronicle twoWeeks d' turns) ∧
      d.RefusesMerge someGroup .groupInfo [] 7 ∧ ¬ d'.RefusesMerge someGroup .groupInfo [] 7 := by
  let other : GroupId := ⟨Identity.groupTag, Vector.replicate 32 0x44⟩
  let d₁ := stateAfter (SessionM.removeGroup someGroup) (fresh 5)
  let d₂ := stateAfter (SessionM.rejoinGroup other) d₁
  let turns : List Turn := [.rejoined other, .removed someGroup 5]
  have reopened : Chronicle twoWeeks (d₂.opened fresh.ring {}) turns := by
    have start : Chronicle twoWeeks (fresh 5) [] :=
      .start _ _ _ (fun _ _ => rfl) (by decide +kernel) (by decide) rfl
    have removed : Chronicle twoWeeks d₁ [.removed someGroup 5] := start.remove someGroup
    exact (removed.rejoin other).reopen _ _ rfl (by decide +kernel)
  have clock : (d₂.opened fresh.ring {}).clock = 5 := by decide +kernel
  have upTo : Chronicle twoWeeks ((d₂.opened fresh.ring {}).atTime 1209600005) turns :=
    reopened.wait _ (by rw [clock]; decide)
  have after : Chronicle twoWeeks ((d₂.opened fresh.ring {}).atTime 1209600006) turns :=
    reopened.wait _ (by rw [clock]; decide)
  refine ⟨_, _, rfl, rfl, ⟨turns, upTo, after⟩, ?_, ?_⟩
  · -- the last moment at which the removal still counts, and the first one at which it does not
    refine (removed_iff_history upTo someGroup .groupInfo [] 7).1.mpr ⟨5, ?_, ?_⟩
    · decide +kernel
    · decide
  · rw [(removed_iff_history after someGroup .groupInfo [] 7).1]
    rintro ⟨s, latest, stands⟩
    have last : Turn.last turns someGroup = some (.removed someGroup 5) := by decide +kernel
    cases latest.symm.trans last
    revert stands
    decide

end Device

end ConfigReplica
