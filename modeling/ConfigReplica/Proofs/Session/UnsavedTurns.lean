import ConfigReplica.Proofs.Session.Incarnation
import ConfigReplica.Proofs.Session.Instances
import ConfigReplica.Proofs.Session.RemovalHistory

/-!
# Turns that are not saved

A removal and a rejoin change the marks in memory and then save them. Where the store refuses to
save them the call fails, and what it changed in memory stays changed. The session goes by its
memory and the next one by the row, so the two no longer agree on the group.

`Device.unsaved_turn_iff` says what a call that failed so leaves behind. In the session that it
failed in the turn counts as if it had been saved: a group that was to be removed is refused from
then on, and one that was to be rejoined is let in (`Device.Unsaved.countsAsRemoved_iff`). A new
session finds all as it was before (`Device.Unsaved.reopened_iff`). The call leaves the group as it
was in the one case that there was nothing to change: the group to be removed counted as removed,
or the group to be rejoined did not. `Device.unsaved_turns_count` has a run of either kind in which
there was.

What is done later in the session does not undo it. A mark in memory stays there while it stands
(`Device.Recalls.runs`), and one that was taken away does not come back without another removal
(`Device.Unmarked.runs`).
-/

namespace ConfigReplica

open Config SessionM

namespace RemovalMarks

variable {marks : RemovalMarks} {group : GroupId} {time since : Int64}

/-- What lapsed before a time makes no difference from that time on. -/
theorem since_filter_iff (le : since ≤ time) :
    Since (marks.filter fun _ t => since ≤ t) group time ↔ marks.Since group time := by
  refine ⟨?_, fun marked => marked.filter le⟩
  rintro ⟨t, mark, stands⟩
  rw [Std.ExtTreeMap.getElem?_filter', Option.filter_eq_some_iff] at mark
  exact ⟨t, mark.1, stands⟩

end RemovalMarks

namespace Turn

/-- A removal. -/
def Removes : Turn → Prop
  | .removed _ _ => True
  | .rejoined _ => False

/-- The operation that makes the turn. -/
def operation : Turn → SessionM Unit
  | .removed group _ => removeGroup group
  | .rejoined group => rejoinGroup group

variable {turn : Turn} {marks : RemovalMarks} {group : GroupId} {time now : Int64}

/-- What a turn changes: its own group is marked at the time of its removal, or not at all. -/
theorem since_mark_iff (at' : turn.At now) :
    (turn.mark marks).Since group time ↔
      if group = turn.group then turn.Removes ∧ time ≤ now else marks.Since group time := by
  unfold RemovalMarks.Since
  cases turn with
  | removed other t =>
    obtain rfl : t = now := at'
    -- a turn says something of its own group only
    by_cases mine : group = other
    · subst mine
      simp [mark, Turn.group, Removes]
    · simp [mark, Turn.group, mine, Ne.symm mine, Std.ExtTreeMap.getElem?_insert]
  | rejoined other =>
    by_cases mine : group = other
    · subst mine
      simp [mark, Turn.group, Removes]
    · simp [mark, Turn.group, mine, Ne.symm mine, Std.ExtTreeMap.getElem?_erase]

end Turn

namespace Device

variable {deed : Deed} {d d' d₁ : Device} {turn : Turn} {group : GroupId} {time : Int64}
  {known : RemovalMarks}

/-! ### Groups that count as removed -/

/-- The session counts the group as removed. -/
def CountsAsRemoved (d : Device) (group : GroupId) : Prop :=
  ∃ d', isRemoved (.group group) d = .ok true d'

/-- Whether a group counts as removed can be computed. -/
theorem yields_isRemoved_iff :
    yields (isRemoved (.group group)) d id = true ↔ d.CountsAsRemoved group := by
  constructor
  · intro passes
    obtain ⟨_, ran, rfl⟩ := exists_of_yields passes
    exact ⟨_, ran⟩
  · rintro ⟨d', ran⟩
    exact yields_of_ok ran id

instance (d : Device) (group : GroupId) : Decidable (d.CountsAsRemoved group) :=
  decidable_of_iff _ yields_isRemoved_iff

/-- A group counts as removed if the marks can be read and one of the group stands. -/
theorem countsAsRemoved_iff :
    d.CountsAsRemoved group ↔
      ∃ known d₁, marks d = .ok known d₁ ∧ known.Since group d.cutoff := by
  -- a mark stands if its time is not before the cutoff
  have stands (known : RemovalMarks) :
      (known[group]?.any fun time => d.cutoff ≤ time) = true ↔ known.Since group d.cutoff := by
    simp only [Option.any_eq_true, decide_eq_true_eq]
    rfl
  constructor
  · rintro ⟨d', removed⟩
    -- the marks have to be read for this; where that fails nothing is counted
    cases read : marks d with
    | ok known d₁ =>
      rw [isRemoved_of_marks read] at removed
      injection removed with marked
      exact ⟨known, d₁, rfl, (stands known).mp marked⟩
    | error error d₁ =>
      rw [isRemoved_of_unread read] at removed
      cases removed
  · rintro ⟨known, d₁, read, marked⟩
    exact ⟨d₁, by rw [isRemoved_of_marks read, (stands known).mpr marked]⟩

/-- A session with marks in memory goes by these. -/
theorem countsAsRemoved_of_known (read : d.session.removed = some known) :
    d.CountsAsRemoved group ↔ known.Since group d.cutoff := by
  rw [countsAsRemoved_iff]
  constructor
  · rintro ⟨other, d₁, ran, since⟩
    cases (marks_of_known read).symm.trans ran
    exact since
  · intro since
    exact ⟨known, d, marks_of_known read, since⟩

/-- A session that has read no marks yet goes by those of the row. -/
theorem countsAsRemoved_of_unread (unread : d.session.removed = none)
    (gives : d.store.fault d.store.past (.read RemovalMarks.cell) = none) :
    d.CountsAsRemoved group ↔ ∃ stored, d.MarksStored stored ∧ stored.Since group d.cutoff := by
  rw [countsAsRemoved_iff]
  constructor
  · rintro ⟨known, d₁, ran, since⟩
    rcases marks_eq_ok_iff.mp ran with ⟨read, -⟩ | ⟨-, -, stored, -⟩
    · cases unread.symm.trans read
    · exact ⟨known, stored, since⟩
  · rintro ⟨stored, row, since⟩
    exact ⟨stored, _, marks_of_stored unread gives row, since⟩

/-- Time goes on, and the marks stay. -/
theorem marks_atTime (read : marks d = .ok known d₁) (time : Int64) :
    marks (d.atTime time) = .ok known (d₁.atTime time) := by
  rw [marks_eq_ok_iff] at read ⊢
  rcases read with ⟨kept, rfl⟩ | ⟨unread, gives, row, rfl⟩
  · exact .inl ⟨kept, rfl⟩
  · exact .inr ⟨unread, gives, row, rfl⟩

/-- How a group counts at a later time. -/
theorem countsAsRemoved_atTime (read : marks d = .ok known d₁) (time : Int64) :
    (d.atTime time).CountsAsRemoved group ↔ known.Since group (d.atTime time).cutoff := by
  rw [countsAsRemoved_iff]
  constructor
  · rintro ⟨other, d₂, ran, since⟩
    cases (marks_atTime read time).symm.trans ran
    exact since
  · intro since
    exact ⟨known, _, marks_atTime read time, since⟩

/-! ### Marks in memory -/

/-- A mark of the group, at a time or later, is in memory. -/
def Recalls (d : Device) (group : GroupId) (time : Int64) : Prop :=
  ∃ marks, d.session.removed = some marks ∧ marks.Since group time

/-- A mark that stands stays in memory. -/
theorem Effect.recalls (effect : Effect deed d d') (stands : d.cutoff ≤ time)
    (leaves : LeavesMark group time d.clock deed) (recalls : d.Recalls group time) :
    d'.Recalls group time := by
  obtain ⟨marks, known, since⟩ := recalls
  cases effect with
  | aside same => exact ⟨marks, same.removed.trans known, since⟩
  -- the marks were read before, so they are not read again
  | recalled unread stored => cases unread.symm.trans known
  | remarked change known' =>
    obtain rfl := Option.some.inj (known'.symm.trans known)
    exact ⟨_, rfl, (leaves.since change since).filter stands⟩
  | forgot => exact absurd rfl leaves.2.1
  | _ => exact ⟨marks, known, since⟩

/-- It stays along a run that does not open the session again. -/
theorem Recalls.runs (recalls : d.Recalls group time) (tidy : d.Tidy) (stands : d.cutoff ≤ time)
    (run : Runs { standing group time with reopen := fun _ => False } d d') :
    d'.Recalls group time ∧ d'.cutoff ≤ time := by
  refine (run.keeps (P := fun d => d.Recalls group time ∧ d.cutoff ≤ time) tidy ?_ ?_ ?_
    ⟨recalls, stands⟩).2
  · rintro d d' deed leaves - effect ⟨recalls, stands⟩
    exact ⟨effect.recalls stands leaves recalls, effect.cutoff_eq.symm ▸ stands⟩
  · rintro d clock stands ⟨recalls, -⟩
    exact ⟨recalls, stands⟩
  · exact fun never => never.elim

/-- A group stays unmarked along a run that neither removes it nor opens the session again. -/
theorem Unmarked.runs (unmarked : Unmarked group d) (tidy : d.Tidy)
    (run : Runs { deed := fun _ deed => deed ≠ .remove group, reopen := fun _ => False } d d') :
    Unmarked group d' := by
  refine (run.keeps (P := Unmarked group) tidy ?_ ?_ ?_ unmarked).2
  · exact fun other _ effect unmarked => effect.unmarked other unmarked
  · exact fun _ unmarked => unmarked
  · exact fun never => never.elim

/-- What would write to a group of which a mark stands in memory fails because the group was
removed. -/
theorem Recalls.refuses (recalls : d.Recalls group time) (stands : d.cutoff ≤ time) {α : Type}
    {action : SessionM α} (writes : WritesTo group action) :
    ∃ d', action d = .error (.gone (.group group)) d' ∧ d'.store.rows = d.store.rows := by
  obtain ⟨marks, known, t, mark, le⟩ := recalls
  have later : d.cutoff ≤ t := Int64.le_trans stands le
  have refused : checkPresent (.group group) d = .error (.gone (.group group)) d := by
    rw [checkPresent_of_marks (marks_of_known known), if_pos (by simp [mark, later])]
  obtain ⟨error, d', failed, rows, rfl | ⟨unread, -⟩⟩ :=
    -- the check fails on the mark, so what would write fails, and the reason is the group
    writes.fails ⟨_, d, refused, rfl, .inl rfl⟩
  · exact ⟨d', failed, rows⟩
  · cases unread.symm.trans known

/-! ### A turn that is not saved -/

/-- A turn was to be made, and the store refused to save the marks. -/
structure Unsaved (turn : Turn) (d d' : Device) : Prop where
  now : turn.At d.clock
  failed : ∃ error, turn.operation d = .error error d'
  refused : d'.store.past.head? = some (.write RemovalMarks.cell)

namespace Unsaved

/-- A turn that is not saved fails as the marks are changed. -/
theorem updateMarks (unsaved : Unsaved turn d d') :
    ∃ error, SessionM.updateMarks turn.mark d = .error error d' := by
  obtain ⟨now, ⟨error, failed⟩, refused⟩ := unsaved
  cases turn with
  | rejoined group => exact ⟨error, failed⟩
  | removed group time =>
    obtain rfl : time = d.clock := now
    -- a removal that comes further can only fail as it deletes rows
    -- of the ways a removal fails only that of its marks ends with such a write
    rcases removeGroup_cases group d with ⟨_, ran, -⟩ | ⟨_, _, ran, stopped, -⟩ |
      ⟨_, _, _, _, _, -, ran, last, -⟩
    · cases failed.symm.trans ran
    · cases failed.symm.trans ran
      exact ⟨_, stopped⟩
    · cases failed.symm.trans ran
      cases last.symm.trans refused

/-- **What is left of it.** The marks could be read, and were changed in memory. -/
theorem left (unsaved : Unsaved turn d d') :
    ∃ known d₁, marks d = .ok known d₁ ∧ Alike d d₁ ∧
      d' = (d₁.setMarks ((turn.mark known).filter fun _ time => d.cutoff ≤ time)).noted
        (.write RemovalMarks.cell) := by
  obtain ⟨error, failed⟩ := unsaved.updateMarks
  obtain ⟨d₁, alike, ⟨known, read⟩ | ⟨unread, stopped, last⟩⟩ := marks_cases d
  · -- the marks were read, and saving them is what failed
    refine ⟨known, d₁, read, alike, ?_⟩
    have changes := updateMarks_of_marks read turn.mark
    rw [failed] at changes
    dsimp only at changes
    split at changes
    · cases changes
    · cases changes
      rfl
  · -- had they not been read, this would have been the last step
    cases failed.symm.trans (bind_of_error stopped)
    cases last.symm.trans unsaved.refused

/-- Nothing else came of it. -/
theorem alike (unsaved : Unsaved turn d d') : Alike d d' := by
  obtain ⟨known, d₁, -, alike, rfl⟩ := unsaved.left
  exact alike.trans {}

/-- **From then on the session goes by the turn**, as if it had been saved. -/
theorem countsAsRemoved_iff (unsaved : Unsaved turn d d') (later : d.clock ≤ time) :
    (d'.atTime time).CountsAsRemoved group ↔
      if group = turn.group then turn.Removes ∧ (d.atTime time).cutoff ≤ d.clock
      else (d.atTime time).CountsAsRemoved group := by
  obtain ⟨known, d₁, read, alike, rfl⟩ := unsaved.left
  -- as time goes on fewer marks count, so what was dropped makes no difference
  have le : d.cutoff ≤ (d.atTime time).cutoff := cutoff_mono later _
  have same : (d₁.atTime time).cutoff = (d.atTime time).cutoff :=
    congrArg (fun s : Settings => ConfigReplica.cutoff time s.retention) alike.settings
  rw [countsAsRemoved_of_known rfl]
  change RemovalMarks.Since _ group (d₁.atTime time).cutoff ↔ _
  rw [same, RemovalMarks.since_filter_iff le, Turn.since_mark_iff unsaved.now,
    countsAsRemoved_atTime read]

/-- A new session goes by the row, which is as it was. -/
theorem reopened_iff (unsaved : Unsaved turn d d')
    (gives : ∀ past, d.store.fault past (.read RemovalMarks.cell) = none) (ring : Seal.Keyring)
    (settings : Settings) :
    ((d'.opened ring settings).atTime time).CountsAsRemoved group ↔
      ((d.opened ring settings).atTime time).CountsAsRemoved group := by
  have alike := unsaved.alike
  have gives' : d'.store.fault d'.store.past (.read RemovalMarks.cell) = none := by
    rw [alike.fault]
    exact gives _
  have stored (marks : RemovalMarks) :
      ((d'.opened ring settings).atTime time).MarksStored marks ↔
        ((d.opened ring settings).atTime time).MarksStored marks := by
    -- the row was not written, so both read the same
    have row : ((d'.opened ring settings).atTime time).store.row? RemovalMarks.cell =
        ((d.opened ring settings).atTime time).store.row? RemovalMarks.cell :=
      congrArg (·[RemovalMarks.cell]?) alike.rows
    unfold MarksStored
    rw [row]
  rw [countsAsRemoved_of_unread (d := (d'.opened ring settings).atTime time) rfl gives',
    countsAsRemoved_of_unread (d := (d.opened ring settings).atTime time) rfl (gives _)]
  simp only [stored]
  rfl

/-- The group has its mark in memory, as if it had been removed. -/
theorem recalls (unsaved : Unsaved turn d d') (removes : turn.Removes) :
    d'.Recalls turn.group d.clock := by
  obtain ⟨known, d₁, -, -, rfl⟩ := unsaved.left
  -- the turn marks the group, and the mark is of the present time
  have since : (turn.mark known).Since turn.group d.clock := by
    rw [Turn.since_mark_iff unsaved.now, if_pos rfl]
    exact ⟨removes, Int64.le_refl _⟩
  exact ⟨_, rfl, since.filter (cutoff_le _ _)⟩

/-- The group has no mark in memory, as if it had been rejoined. -/
theorem unmarked (unsaved : Unsaved turn d d') (rejoins : ¬ turn.Removes) :
    Unmarked turn.group d' := by
  obtain ⟨known, d₁, -, -, rfl⟩ := unsaved.left
  cases turn with
  | removed => exact absurd trivial rejoins
  | rejoined => exact unmarked_of_erased rfl

end Unsaved

/-! ### The theorem -/

/-- **A turn that is not saved counts all the same**, in this session and in no other. When the
store refuses to save the marks for a removal or a rejoin,

* nothing changes but what was read in passing, and the marks in memory;
* from then on the group counts as if the turn had been saved, and every other group as before;
* what would write to a group that was to be removed is refused, and a group that was to be
  rejoined passes the check, along every run that stays in the session;
* a new session finds every group as it was before;
* right after the call the group counts as before exactly if it was to be removed and counted as
  removed, or was to be rejoined and did not. -/
theorem unsaved_turn_iff {turn : Turn} {d d' : Device} (reached : d.Reached)
    (unsaved : Unsaved turn d d') :
    Alike d d' ∧
    (∀ group time, d.clock ≤ time →
      ((d'.atTime time).CountsAsRemoved group ↔
        if group = turn.group then turn.Removes ∧ (d.atTime time).cutoff ≤ d.clock
        else (d.atTime time).CountsAsRemoved group)) ∧
    (turn.Removes → ∀ e,
      Runs { standing turn.group d.clock with reopen := fun _ => False } d' e →
      ∀ {α : Type} {action : SessionM α}, WritesTo turn.group action →
        ∃ e', action e = .error (.gone (.group turn.group)) e' ∧
          e'.store.rows = e.store.rows) ∧
    (¬ turn.Removes → ∀ e,
      Runs { deed := fun _ deed => deed ≠ .remove turn.group, reopen := fun _ => False } d' e →
      checkPresent (.group turn.group) e = .ok () e) ∧
    ((∀ past, d.store.fault past (.read RemovalMarks.cell) = none) →
      ∀ ring settings group time,
        ((d'.opened ring settings).atTime time).CountsAsRemoved group ↔
          ((d.opened ring settings).atTime time).CountsAsRemoved group) ∧
    ((d'.CountsAsRemoved turn.group ↔ d.CountsAsRemoved turn.group) ↔
      (d.CountsAsRemoved turn.group ↔ turn.Removes)) := by
  have alike := unsaved.alike
  have tidy : d'.Tidy := alike.tidy reached.tidy
  refine ⟨alike, fun group time later => unsaved.countsAsRemoved_iff later, ?_, ?_,
    fun gives ring settings group time => unsaved.reopened_iff gives ring settings, ?_⟩
  · intro removes e run α action writes
    have stands : d'.cutoff ≤ d.clock := by
      rw [← alike.clock]
      exact cutoff_le _ _
    -- the mark in memory stays, whatever becomes of the row
    obtain ⟨recalls, stands⟩ := (unsaved.recalls removes).runs tidy stands run
    exact recalls.refuses stands writes
  · intro rejoins e run
    -- the rejoin left no mark in memory, and only a removal puts one there
    have unmarked := (unsaved.unmarked rejoins).runs tidy run
    exact checkPresent_of_unmarked unmarked
  · -- at the time of the call itself, a removal counts and a rejoin does not
    have present : d'.CountsAsRemoved turn.group ↔ turn.Removes := by
      have now : (d'.atTime d.clock).CountsAsRemoved turn.group ↔ _ :=
        unsaved.countsAsRemoved_iff (Int64.le_refl _)
      rw [if_pos rfl, and_iff_left (show (d.atTime d.clock).cutoff ≤ d.clock from cutoff_le _ _)]
        at now
      rw [← now, ← alike.clock]
      rfl
    rw [present]
    exact iff_comm

/-- A new session over a store that saves the marks a number of times and not again. -/
def refusingMarks (saves : Nat) : Device :=
  opened { fresh 5 with store := { fault } } fresh.ring {}
where
  /-- Saving the marks once more is refused. -/
  fault (past : List Access) (step : Access) : Option String :=
    if step = .write RemovalMarks.cell ∧ saves ≤ past.count step then some "disk full" else none

/-- A removal that could not be saved. What would write to the group is refused, and a new session
knows nothing of it. -/
theorem unsaved_turn_iff_removal :
    ∃ d d' : Device, d.Reached ∧ Unsaved (.removed someGroup 5) d d' ∧
      ¬ (d'.CountsAsRemoved someGroup ↔ d.CountsAsRemoved someGroup) ∧
      (∃ e', SessionM.persistGroup someGroup 6 d' = .error (.gone (.group someGroup)) e') ∧
      ¬ (d'.opened fresh.ring {}).CountsAsRemoved someGroup := by
  let d := refusingMarks 0
  let d' := stateAfter (removeGroup someGroup) d
  have unsaved : Unsaved (.removed someGroup 5) d d' :=
    ⟨rfl, exists_error_of_yields (by decide +kernel), by decide +kernel⟩
  have reached : d.Reached := ⟨_, _, _, .refl _⟩
  -- the removal is refused where its marks are to be saved, so the group counts as removed now
  obtain ⟨-, -, refuses, -, again, exactly⟩ := unsaved_turn_iff reached unsaved
  have before : ¬ d.CountsAsRemoved someGroup := by decide +kernel
  obtain ⟨e', refused, -⟩ := refuses trivial d' (.refl d') (.persistGroup 6)
  refine ⟨d, d', reached, unsaved, ?_, ⟨e', refused⟩, ?_⟩
  · intro same
    exact before ((exactly.mp same).mpr trivial)
  · intro removed
    exact before ((again (fun _ => rfl) fresh.ring {} someGroup 5).mp removed)

/-- **A call that fails may not leave the group as it was.** A removal that could not be saved makes
the group count as removed, and a rejoin that could not be saved makes it count as present, until
the session is opened again. -/
theorem unsaved_turns_count :
    (∃ d d' : Device, d.Reached ∧ (∃ error, removeGroup someGroup d = .error error d') ∧
      d'.store.past.head? = some (.write RemovalMarks.cell) ∧
      ¬ d.CountsAsRemoved someGroup ∧ d'.CountsAsRemoved someGroup ∧
      ¬ (d'.opened fresh.ring {}).CountsAsRemoved someGroup) ∧
    ∃ d d' : Device, d.Reached ∧ (∃ error, rejoinGroup someGroup d = .error error d') ∧
      d'.store.past.head? = some (.write RemovalMarks.cell) ∧
      d.CountsAsRemoved someGroup ∧ ¬ d'.CountsAsRemoved someGroup ∧
      (d'.opened fresh.ring {}).CountsAsRemoved someGroup := by
  let d₁ := stateAfter (removeGroup someGroup) (refusingMarks 1)
  have reached₁ : d₁.Reached :=
    Reached.trans ⟨_, _, _, .refl _⟩ ((Runs.refl _).act (.removeGroup someGroup) trivial)
  refine ⟨⟨refusingMarks 0, stateAfter (removeGroup someGroup) (refusingMarks 0),
    ⟨_, _, _, .refl _⟩, exists_error_of_yields (by decide +kernel), ?_, ?_, ?_, ?_⟩,
    ⟨d₁, stateAfter (rejoinGroup someGroup) d₁, reached₁,
      exists_error_of_yields (by decide +kernel), ?_, ?_, ?_, ?_⟩⟩
  all_goals decide +kernel

end Device

end ConfigReplica
