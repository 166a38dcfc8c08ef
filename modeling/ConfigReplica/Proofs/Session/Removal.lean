import ConfigReplica.Proofs.Session.Rows
import ConfigReplica.Proofs.Session.Runs

/-!
# Removed groups stay removed

From the removal of a group until it is rejoined, the store is wiped or the mark lapses,
there is no row of the group, whatever is done meanwhile and however often the session
is opened again (`Device.removed_group_stays_gone`). What would write to the group fails
and changes no row.

Objects of the group may well be in memory at that time. They are made anew when they
are asked for, and those handed out before can be edited as ever. None of them is
stored: an effect that stores an object carries the check of its scope
(`Device.Effect.stored`), and the check sees the mark (`Device.Marked.not_present`).

A session that has not read the marks reads them for the check. Where the store refuses
to give them, what would write fails with the error of the store and not because the
group was removed; nothing is written either way (`Device.refused_marks_hide_removal`).
-/

namespace ConfigReplica

open Config SessionM

namespace Device

variable {deed : Deed} {d d' d₀ d₁ : Device} {group : GroupId} {time : Int64}

/-- **A group is gone**: its mark holds and it has no row. -/
structure Gone (d : Device) (group : GroupId) (time : Int64) : Prop where
  marked : d.Marked group time
  unstored : ∀ variant ∈ Variant.ofGroup, Unstored group variant d

/-- No effect brings a row of the group back as long as its mark stands. -/
theorem Effect.gone (effect : Effect deed d d') (stands : d.cutoff ≤ time)
    (leaves : LeavesMark group time d.clock deed) (gone : d.Gone group time) :
    d'.Gone group time := by
  refine ⟨effect.marked stands leaves gone.marked, fun variant mem => ?_⟩
  have none := gone.unstored variant mem
  refine Option.eq_none_iff_forall_ne_some.mpr fun bytes row => ?_
  rcases effect.row_cases row with before | writes
  · cases none.symm.trans before
  · generalize place : (Scope.group group).cell variant = cell at writes
    cases writes with
    -- marks and watermarks are in other tables than objects
    | marks change known => cases congrArg Cell.table place
    | watermarks v => cases congrArg Cell.table place
    | object stores object placed time present =>
      -- the object that is stored is not of the group, or the check had refused it
      rw [← (Scope.cell_inj place).1] at present
      exact gone.marked.not_present stands present

/-- What a run is held to while a removal at a time stands: the group is not rejoined, the store
is not wiped, and the mark does not lapse. A mark that is read again has a row that can be read. -/
def standing (group : GroupId) (time : Int64) : Terms where
  deed := LeavesMark group time
  wait d := d.cutoff ≤ time
  reopen d := d.cutoff ≤ time ∧
    ∀ bytes ∈ d.store.row? RemovalMarks.cell, bytes.length < UInt64.size

/-- A group stays gone when the session is opened again and can read the marks. -/
theorem Gone.opened (gone : d.Gone group time) (ring : Seal.Keyring) (settings : Settings)
    (short : ∀ bytes ∈ d.store.row? RemovalMarks.cell, bytes.length < UInt64.size) :
    (d.opened ring settings).Gone group time := by
  obtain ⟨⟨-, marks, row, since, -⟩, unstored⟩ := gone
  exact ⟨⟨fun _ known => (by cases known), marks, row, since, fun _ => short _ row⟩, unstored⟩

/-- A group stays gone along a run. -/
theorem Gone.runs (gone : d.Gone group time) (tidy : d.Tidy) (stands : d.cutoff ≤ time)
    (run : Runs (standing group time) d d') : d'.Tidy ∧ d'.Gone group time ∧ d'.cutoff ≤ time := by
  refine run.keeps (P := fun d => d.Gone group time ∧ d.cutoff ≤ time) tidy ?_ ?_ ?_ ⟨gone, stands⟩
  · -- each effect of the run keeps the row away, as the mark stands
    rintro d d' deed leaves - effect ⟨gone, stands⟩
    exact ⟨effect.gone stands leaves gone, effect.cutoff_eq.symm ▸ stands⟩
  · rintro d clock stands ⟨gone, -⟩
    exact ⟨⟨⟨gone.marked.known, gone.marked.stored⟩, gone.unstored⟩, stands⟩
  · rintro d ring settings ⟨stands, short⟩ ⟨gone, -⟩
    exact ⟨gone.opened ring settings short, stands⟩

/-- A removal that succeeds leaves the group gone. -/
theorem gone_of_removeGroup (tidy : d₀.Tidy) (removed : removeGroup group d₀ = .ok () d₁) :
    d₁.Tidy ∧ d₁.Gone group d₀.clock ∧ d₁.cutoff ≤ d₀.clock ∧
      ∀ variant handle, ¬ d₁.Placed (.group group) variant handle := by
  -- the chain of effects gives the clock, and the rule of the operation what it leaves behind
  have chain := (does_removeGroup group).chain tidy trivial
  rw [stateAfter_of_ok removed] at chain
  have clock : d₁.clock = d₀.clock :=
    chain.keeps (fun effect same => effect.steady.1.trans same) rfl
  obtain ⟨marked, vacant, unstored⟩ := (does_removeGroup group).post tidy trivial removed
  rw [clock] at marked
  exact ⟨chain.tidy tidy, ⟨marked, unstored⟩, clock ▸ cutoff_le _ _, vacant⟩

/-! ### What would write -/

/-- Why what would write to a removed group fails: because the group was removed, or because the
marks were not read yet and the store refuses to give them. -/
def Refuses (d : Device) (group : GroupId) (error : Error) : Prop :=
  error = .gone (.group group) ∨
    d.session.removed = none ∧ ∃ text,
      d.store.fault d.store.past (.read RemovalMarks.cell) = some text ∧ error = .storage text

/-- An action fails for one of these reasons, and changes no row. -/
def Fails {α : Type} (d : Device) (group : GroupId) (action : SessionM α) : Prop :=
  ∃ error d', action d = .error error d' ∧ d'.store.rows = d.store.rows ∧ d.Refuses group error

/-- The check of a group whose mark stands fails. -/
theorem Marked.checkPresent_fails (marked : d.Marked group time) (stands : d.cutoff ≤ time) :
    d.Fails group (checkPresent (.group group)) := by
  -- once the marks are known, the check sees the one of the group
  have refuses {known : RemovalMarks} {d' : Device} (read : marks d = .ok known d')
      (since : known.Since group time) :
      checkPresent (.group group) d = .error (.gone (.group group)) d' := by
    obtain ⟨t, mark, le⟩ := since
    have later : d.cutoff ≤ t := Int64.le_trans stands le
    rw [checkPresent_of_marks read, if_pos (by simp [mark, later])]
  -- in memory the mark is at hand, else it is in the row, which the store may refuse
  cases known : d.session.removed with
  | some marks =>
    exact ⟨_, d, refuses (marks_of_known known) (marked.known marks known), rfl, .inl rfl⟩
  | none =>
    obtain ⟨stored, row, since, short⟩ := marked.stored
    have decoded := Codec.decode_write RemovalMarks.faithful_codec stored (short known)
    cases fault : d.store.fault d.store.past (.read RemovalMarks.cell) with
    | none =>
      -- the marks are read for the check
      have read : marks d = .ok stored ((d.noted (.read RemovalMarks.cell)).setMarks stored) := by
        unfold marks
        rw [bind_of_ok (session_eq d), known]
        exact bind_of_ok (onStore_load_of_row RemovalMarks.codec _ _ d fault row decoded)
      exact ⟨_, _, refuses read since, rfl, .inl rfl⟩
    | some text =>
      have failed : marks d = .error (.storage text) (d.noted (.read RemovalMarks.cell)) := by
        unfold marks
        rw [bind_of_ok (session_eq d), known]
        exact bind_of_error (onStore_load_of_fault RemovalMarks.codec _ _ d fault)
      exact ⟨_, _, checkPresent_of_unread failed group, rfl, .inr ⟨known, text, fault, rfl⟩⟩

/-- What comes after an action that fails does not matter. -/
theorem Fails.bind {α β : Type} {first : SessionM α} (fails : d.Fails group first)
    (next : α → SessionM β) : d.Fails group (first >>= next) := by
  obtain ⟨error, d', ran, kept⟩ := fails
  exact ⟨error, d', bind_of_error ran, kept⟩

end Device

/-- **The operations that write to a group.** -/
inductive WritesTo (group : GroupId) : {α : Type} → SessionM α → Prop
  | edit (variant : Variant) {α : Type} (step : EditM α) :
      WritesTo group (SessionM.edit variant (.group group) step)
  | persist (variant : Variant) (time : Int64) :
      WritesTo group (SessionM.persist variant (.group group) time)
  | persistGroup (time : Int64) : WritesTo group (SessionM.persistGroup group time)
  | merge (variant : Variant) (updates : List Update) (time : Int64) :
      WritesTo group (SessionM.merge variant (.group group) updates time)
  | confirm (variant : Variant) (seqno : UInt64) (hash : String) :
      WritesTo group (SessionM.confirm variant (.group group) seqno hash)

/-- Each of them checks the group first. -/
theorem WritesTo.fails {group : GroupId} {α : Type} {action : SessionM α}
    (writes : WritesTo group action) {d : Device}
    (checks : d.Fails group (checkPresent (.group group))) : d.Fails group action := by
  -- of the operations that write only this one checks on its own account
  have persist (variant : Variant) (time : Int64) :
      d.Fails group (SessionM.persist variant (.group group) time) := checks.bind _
  cases writes with
  | edit variant step => exact checks.bind _
  | persist variant time => exact persist variant time
  | persistGroup time => exact (persist _ time).bind _
  | merge variant updates time => exact checks.bind _
  | confirm variant seqno hash => exact checks.bind _

namespace Device

/-- **Removed groups stay removed.** After the removal of a group there is no row of it, and what
would write to it fails and changes no row, along every run in which the group is not rejoined,
the store not wiped, and the mark does not lapse. -/
theorem removed_group_stays_gone {d d₀ d₁ : Device} {group : GroupId} (reached : d₀.Reached)
    (removed : removeGroup group d₀ = .ok () d₁)
    (run : Runs (standing group d₀.clock) d₁ d) :
    (∀ variant ∈ Variant.ofGroup, d.store.row? ((Scope.group group).cell variant) = none) ∧
    ∀ {α : Type} {action : SessionM α}, WritesTo group action → d.Fails group action := by
  obtain ⟨tidy, gone, stands, -⟩ := gone_of_removeGroup reached.tidy removed
  obtain ⟨-, gone, stands⟩ := gone.runs tidy stands run
  exact ⟨gone.unstored, fun writes => writes.fails (gone.marked.checkPresent_fails stands)⟩

/-- A group stays gone while one of its objects is asked for and edited, time passes, and the
session is opened again. -/
theorem removed_group_stays_gone_reopened :
    ∃ d₀ d₁ d : Device, d₀.Reached ∧ removeGroup someGroup d₀ = .ok () d₁ ∧
      Runs (standing someGroup 5) d₁ d ∧
      d.store.row? ((Scope.group someGroup).cell .groupInfo) = none ∧
      d.Fails someGroup (SessionM.persist .groupInfo (.group someGroup) 9) := by
  have works (now : Int64) : LeavesMark someGroup 5 now .work := ⟨by simp, by simp, by simp⟩
  have removed : ∃ d₀ d₁ : Device, d₀.Reached ∧ d₀.clock = 5 ∧
      removeGroup someGroup d₀ = .ok () d₁ ∧ ∃ d, Runs (standing someGroup 5) d₁ d := by
    -- the object is asked for after the removal, and made anew
    let d₁ := stateAfter (removeGroup someGroup) (fresh 5)
    let d₂ := stateAfter (editObject 0 6 (EditM.set "info" "name" "1"))
      (stateAfter (SessionM.read .groupInfo (.group someGroup)) d₁)
    have edited : Runs (standing someGroup 5) d₁ d₂ :=
      ((Runs.refl d₁).act (.read .groupInfo (.group someGroup)) (works _)).act
        (.editObject 0 6 (.set "info" "name" "1")) (works _)
    have waited : (d₂.atTime 1000).cutoff ≤ 5 := by decide +kernel
    have again : ((d₂.atTime 1000).opened fresh.ring {}).cutoff ≤ 5 := by decide +kernel
    exact ⟨fresh 5, d₁, reached_fresh 5, rfl, rfl, _,
      (edited.wait 1000 waited).reopen fresh.ring {} ⟨again, by decide +kernel⟩⟩
  obtain ⟨d₀, d₁, reached, clock, ran, d, run⟩ := removed
  rw [← clock] at run
  obtain ⟨unstored, fails⟩ := removed_group_stays_gone reached ran run
  rw [clock] at run
  exact ⟨d₀, d₁, d, reached, ran, run, unstored .groupInfo (by decide), fails (.persist _ _)⟩

/-- **Refused marks hide a removal.** A group is removed and the session opened again. The store
gave the row of the marks once and refuses it now, so an edit of the group fails with the error of
the store, although the session is open and the mark stands. -/
theorem refused_marks_hide_removal :
    ∃ d₀ d₁ d d' : Device, d₀.Reached ∧ d₀.clock = 5 ∧ removeGroup someGroup d₀ = .ok () d₁ ∧
      Runs (standing someGroup 5) d₁ d ∧ d.session.closed = false ∧
      SessionM.edit .groupInfo (.group someGroup) (EditM.set "info" "name" "1") d =
        .error (.storage "disk full") d' ∧
      Error.storage "disk full" ≠ .gone (.group someGroup) := by
  -- the store gives the row once, for the removal, and not again
  let fault (past : List Access) (step : Access) : Option String :=
    if step = .read RemovalMarks.cell ∧ step ∈ past then some "disk full" else none
  let d₀ : Device := opened { fresh 5 with store := { fault } } fresh.ring {}
  let d₁ := stateAfter (removeGroup someGroup) d₀
  let d := d₁.opened fresh.ring {}
  let edit := SessionM.edit .groupInfo (.group someGroup) (EditM.set "info" "name" "1")
  have reached : d₀.Reached := ⟨_, _, _, .refl _⟩
  have stands : d.cutoff ≤ 5 := by decide +kernel
  have run : Runs (standing someGroup 5) d₁ d :=
    (Runs.refl d₁).reopen fresh.ring {} ⟨stands, by decide +kernel⟩
  have removed : removeGroup someGroup d₀ = .ok () d₁ := by rfl
  have refused : edit d = .error (.storage "disk full") (stateAfter edit d) := by rfl
  exact ⟨d₀, d₁, d, stateAfter edit d, reached, rfl, removed, run, rfl, refused, nofun⟩

end Device

end ConfigReplica
