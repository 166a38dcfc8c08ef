import ConfigReplica.Proofs.Session.Outcomes
import ConfigReplica.Proofs.State.Join

/-!
# Updates one after the other

What a batch of updates does to an object does not depend on the session but for its keys, so it is
followed on the object alone (`Config.Object.received`). Each update is opened and merged, or it is
skipped and leaves the object as it is (`Config.Object.take?`). What became of the updates is all
that the report tells (`Config.Object.outcomes`, `MergeReport.of`).

A single merge is all or nothing: it fails before it changes anything, or it joins the state of the
update to that of the object and takes note of its identifier (`SessionM.merge_all_or_nothing`).
-/

namespace ConfigReplica

open Config

/-! ### Reports -/

namespace MergeReport

/-- The report of two batches, one after the other. -/
instance : Append MergeReport where
  append r s := {
    merged := r.merged + s.merged
    skipped := r.skipped ++ s.skipped
    changed := r.changed || s.changed }

/-- Two reports add up part by part. -/
theorem append_eq (r s : MergeReport) :
    r ++ s = { merged := r.merged + s.merged, skipped := r.skipped ++ s.skipped,
               changed := r.changed || s.changed } := rfl

/-- The report of what became of each update of a batch: nothing if it was skipped, and otherwise
whether it changed a visible value. -/
def of (outcomes : List (Update × Option Bool)) : MergeReport where
  merged := outcomes.countP fun (_, outcome) => outcome.isSome
  skipped := (outcomes.filter fun (_, outcome) => outcome.isNone).map fun (update, _) => update.hash
  changed := outcomes.any fun (_, outcome) => outcome == some true

/-- In which order reports are added up makes no difference, as long as the batches keep theirs. -/
theorem append_assoc (r s t : MergeReport) : r ++ s ++ t = r ++ (s ++ t) := by
  simp [append_eq, Nat.add_assoc, Bool.or_assoc]

/-- What is reported of two batches is what is reported of them as one. -/
theorem of_append (outcomes outcomes' : List (Update × Option Bool)) :
    of (outcomes ++ outcomes') = of outcomes ++ of outcomes' := by
  simp [append_eq, of]

/-- A batch without updates adds nothing. -/
@[simp] theorem nil_append (r : MergeReport) : ({} : MergeReport) ++ r = r := by
  simp [append_eq]

end MergeReport

/-! ### Objects and updates -/

namespace Config.Object

variable {o o' : Object} {ring : Seal.Keyring} {update : Update} {updates : List Update}

/-- Some visible value differs. -/
def Differs (o o' : Object) : Prop :=
  ∃ collection key, o'.state.get? collection key ≠ o.state.get? collection key

/-- The object once an update arrived for it. One that cannot be opened or read is skipped. -/
def take (o : Object) (ring : Seal.Keyring) (update : Update) : Object :=
  match ring.unwrap update.data o.variant.name o.scope.group? with
  | .error _ => o
  | .ok data =>
    match o.merge update.hash data with
    | .error _ => o
    | .ok (_, o') => o'

/-- The object once a batch of updates arrived for it. -/
def received (o : Object) (ring : Seal.Keyring) (updates : List Update) : Object :=
  updates.foldl (fun o update => o.take ring update) o

/-- **Some update of a batch changes a visible value**, when it comes to it. -/
def Reveals (o : Object) (ring : Seal.Keyring) (updates : List Update) : Prop :=
  ∃ before update after, updates = before ++ update :: after ∧
    (o.received ring before).Differs (o.received ring (before ++ [update]))

/-- An object differs from itself in nothing. -/
theorem not_differs_self (o : Object) : ¬ o.Differs o := by
  rintro ⟨collection, key, differs⟩
  exact differs rfl

/-- A batch without updates changes no visible value. -/
theorem not_reveals_nil : ¬ o.Reveals ring [] := by
  rintro ⟨before, update, after, split, -⟩
  simp at split

/-- Either the first update changes a visible value, or one of the rest does. -/
theorem reveals_cons :
    o.Reveals ring (update :: updates) ↔
      o.Differs (o.take ring update) ∨ (o.take ring update).Reveals ring updates := by
  constructor
  · rintro ⟨before, other, after, split, differs⟩
    -- where the batch was split tells whether it is the first update or a later one
    cases before with
    | nil =>
      obtain ⟨rfl, rfl⟩ := List.cons.inj split
      exact .inl differs
    | cons first before =>
      obtain ⟨rfl, rest⟩ := List.cons.inj split
      exact .inr ⟨before, other, after, rest, differs⟩
  · rintro (differs | ⟨before, other, after, rfl, differs⟩)
    · exact ⟨[], update, updates, rfl, differs⟩
    · exact ⟨update :: before, other, after, rfl, differs⟩

/-- Where a batch makes a difference, one of its updates does. -/
theorem Differs.reveals (differs : o.Differs (o.received ring updates)) :
    o.Reveals ring updates := by
  -- the induction is on the batch, over the object that the first update leaves
  induction updates generalizing o with
  | nil => exact absurd differs (not_differs_self o)
  | cons update updates ih =>
    refine reveals_cons.mpr ?_
    by_cases first : o.Differs (o.take ring update)
    · exact .inl first
    · -- the first update made no difference, so the rest did
      obtain ⟨collection, key, differs⟩ := differs
      refine .inr (ih ⟨collection, key, fun same => differs (same.trans ?_)⟩)
      by_contra other
      exact first ⟨collection, key, other⟩

/-- Whatever arrives for it, an object stays the one it is. -/
theorem take_keeps (o : Object) (ring : Seal.Keyring) (update : Update) :
    (o.take ring update).variant = o.variant ∧ (o.take ring update).scope = o.scope ∧
      (o.take ring update).destroyed = o.destroyed := by
  unfold take
  split
  · exact ⟨rfl, rfl, rfl⟩
  · split
    · exact ⟨rfl, rfl, rfl⟩
    · next accepted =>
      have change : Change .work o _ := .merge accepted
      obtain ⟨variant, scope, -, -, destroyed⟩ := change.keeps
      exact ⟨variant, scope, destroyed⟩

/-- A whole batch keeps what an object is. -/
theorem received_keeps (o : Object) (ring : Seal.Keyring) (updates : List Update) :
    (o.received ring updates).variant = o.variant ∧ (o.received ring updates).scope = o.scope ∧
      (o.received ring updates).destroyed = o.destroyed := by
  induction updates generalizing o with
  | nil => exact ⟨rfl, rfl, rfl⟩
  | cons update updates ih =>
    obtain ⟨variant, scope, destroyed⟩ := o.take_keeps ring update
    obtain ⟨variant', scope', destroyed'⟩ := ih (o.take ring update)
    exact ⟨variant'.trans variant, scope'.trans scope, destroyed'.trans destroyed⟩

/-- What arrives does the same to an object whichever replica it is. -/
theorem take_withOrigin (o : Object) (origin : UInt64) (ring : Seal.Keyring) (update : Update) :
    { o with origin }.take ring update = { o.take ring update with origin } := by
  have merges (data : Bytes) : { o with origin }.merge update.hash data =
      match o.merge update.hash data with
      | .error error => .error error
      | .ok (changed, o') => .ok (changed, { o' with origin }) := by
    -- none of what merging asks for is the origin
    have ended : { o with origin }.destroyed = o.destroyed := rfl
    have known : { o with origin }.hasMerged update.hash = o.hasMerged update.hash := rfl
    have read : { o with origin }.readUpdate data = o.readUpdate data := rfl
    unfold merge
    rw [ended, known, read]
    by_cases gone : o.destroyed = true
    · rw [if_pos gone, if_pos gone]
    · rw [if_neg gone, if_neg gone]
      by_cases merged : o.hasMerged update.hash = true
      · rw [if_pos merged, if_pos merged]
      · rw [if_neg merged, if_neg merged]
        cases o.readUpdate data <;> rfl
  unfold take
  change (match ring.unwrap update.data o.variant.name o.scope.group? with
    | .error _ => { o with origin }
    | .ok data =>
      match { o with origin }.merge update.hash data with
      | .error _ => { o with origin }
      | .ok (_, o') => o') = _
  -- whether the update can be opened depends on the keys, the variant and the scope
  split
  · rfl
  · rw [merges]
    cases o.merge update.hash _ <;> rfl

/-- A whole batch does the same to an object whichever replica it is. -/
theorem received_withOrigin (o : Object) (origin : UInt64) (ring : Seal.Keyring)
    (updates : List Update) :
    { o with origin }.received ring updates = { o.received ring updates with origin } := by
  induction updates generalizing o with
  | nil => rfl
  | cons update updates ih =>
    have first : { o with origin }.received ring (update :: updates) =
        ({ o with origin }.take ring update).received ring updates := rfl
    rw [first, take_withOrigin]
    exact ih (o.take ring update)

/-- The flag of a merge tells whether a visible value changed. -/
theorem merge_changed_iff {id : String} {data : Bytes} {changed : Bool}
    (accepted : o.merge id data = .ok (changed, o')) : changed = true ↔ o.Differs o' := by
  unfold merge at accepted
  split at accepted
  · cases accepted
  · split at accepted
    · -- an update that is known changes nothing, and the flag says so
      cases accepted
      exact ⟨nofun, fun differs => absurd differs (not_differs_self o)⟩
    · split at accepted
      · cases accepted
      · -- any other is joined, and the join looks at the values
        cases accepted
        exact State.joinReveals_iff ..

/-- **Why a merge fails**: the object is gone, or the update is news that cannot be read. -/
theorem merge_error_cases {id : String} {data : Bytes} {error : Error}
    (refused : o.merge id data = .error error) :
    (o.destroyed = true ∧ error = .gone o.scope) ∨
      ∃ reason, o.destroyed = false ∧ o.hasMerged id = false ∧ o.readUpdate data = .error reason ∧
        error = .corruptUpdate id reason := by
  unfold merge at refused
  -- an object that is gone takes nothing; a live one takes what it knows or can read
  cases gone : o.destroyed with
  | true =>
    rw [gone] at refused
    cases refused
    exact .inl ⟨rfl, rfl⟩
  | false =>
    rw [gone] at refused
    split at refused
    · next never => cases never
    · split at refused
      · cases refused
      · next new =>
        split at refused
        · next reason unread =>
          cases refused
          exact .inr ⟨reason, rfl, Bool.eq_false_iff.mpr new, unread, rfl⟩
        · cases refused

/-- Only a live object takes an update. -/
theorem live_of_merge {id : String} {data : Bytes} {result : Bool × Object}
    (accepted : o.merge id data = .ok result) : o.destroyed = false := by
  unfold merge at accepted
  split at accepted
  · cases accepted
  · next live => exact Bool.eq_false_iff.mpr live

/-- **What a merge does** that succeeds: nothing, if the update is remembered, and otherwise the
state of the update is joined to that of the object, which takes note of the identifier and has to
be stored. Neither makes a revision, nor touches what is known of pushes. -/
structure Merged (o : Object) (id : String) (data : Bytes) (changed : Bool) (o' : Object) :
    Prop where
  seqno : o'.seqno = o.seqno
  origin : o'.origin = o.origin
  dirty : o'.dirty = o.dirty
  currentHashes : o'.currentHashes = o.currentHashes
  outcome : (o.hasMerged id = true ∧ o' = o) ∨
    (o.hasMerged id = false ∧ ∃ s, o.readUpdate data = .ok s ∧ o'.state = o.state.join s ∧
      o' = { o with
        state := o'.state, mergedIds := keepLast o.memory (o.mergedIds ++ [id]), needsDump := true })
  changed_iff : changed = true ↔ o.Differs o'

/-- A merge that succeeds does one of the two things. -/
theorem merged_of_ok {id : String} {data : Bytes} {changed : Bool}
    (accepted : o.merge id data = .ok (changed, o')) : o.Merged id data changed o' := by
  have differs := merge_changed_iff accepted
  unfold merge at accepted
  split at accepted
  · -- of the four ways through a merge two succeed, one for what is known and one for news
    cases accepted
  · split at accepted
    · next known =>
      cases accepted
      exact ⟨rfl, rfl, rfl, rfl, .inl ⟨known, rfl⟩, differs⟩
    · next new =>
      split at accepted
      · cases accepted
      · next s read =>
        cases accepted
        have new := Bool.eq_false_iff.mpr new
        exact ⟨rfl, rfl, rfl, rfl, .inr ⟨new, s, read, rfl, rfl⟩, differs⟩

/-! ### What becomes of a batch -/

/-- The object with an update that arrived for it, and whether a visible value changed. There is
none if the update cannot be opened or read. -/
def take? (o : Object) (ring : Seal.Keyring) (update : Update) : Option (Bool × Object) :=
  match ring.unwrap update.data o.variant.name o.scope.group? with
  | .error _ => none
  | .ok data => (o.merge update.hash data).toOption

/-- What arrives for an object is taken over, or skipped. -/
theorem take_eq (o : Object) (ring : Seal.Keyring) (update : Update) :
    o.take ring update = ((o.take? ring update).map Prod.snd).getD o := by
  unfold take take?
  split
  · rfl
  · next data opened => cases o.merge update.hash data <;> rfl

/-- What is taken over was opened, and then merged. -/
theorem exists_of_take? {changed : Bool} (taken : o.take? ring update = some (changed, o')) :
    ∃ data, o.merge update.hash data = .ok (changed, o') := by
  unfold take? at taken
  split at taken
  · cases taken
  · next data opened =>
    refine ⟨data, ?_⟩
    cases merged : o.merge update.hash data with
    | error error =>
      rw [merged] at taken
      cases taken
    | ok result =>
      rw [merged] at taken
      cases taken
      rfl

/-- Each update of a batch with what became of it: nothing if it was skipped, and otherwise whether
it changed a visible value. -/
def outcomes (o : Object) (ring : Seal.Keyring) : List Update → List (Update × Option Bool)
  | [] => []
  | update :: updates =>
    (update, (o.take? ring update).map Prod.fst) :: (o.take ring update).outcomes ring updates

/-- An update changes a visible value if its merge says so. -/
theorem take?_changed_iff :
    (o.take? ring update).map Prod.fst = some true ↔ o.Differs (o.take ring update) := by
  -- an update that is skipped changes nothing, and one that is taken has its flag
  rw [take_eq]
  cases taken : o.take? ring update with
  | none => exact ⟨nofun, fun differs => absurd differs (not_differs_self o)⟩
  | some result =>
    obtain ⟨changed, o'⟩ := result
    obtain ⟨data, merged⟩ := exists_of_take? taken
    exact Option.some_inj.trans (merge_changed_iff merged)

/-- The report tells of a change exactly if some update made one. -/
theorem changed_outcomes_iff :
    (MergeReport.of (o.outcomes ring updates)).changed = true ↔ o.Reveals ring updates := by
  induction updates generalizing o with
  | nil => exact ⟨nofun, fun reveals => absurd reveals not_reveals_nil⟩
  | cons update updates ih =>
    rw [reveals_cons, ← take?_changed_iff, ← ih]
    simp [MergeReport.of, outcomes]

end Config.Object

namespace Device

variable {d : Device} {handle : Handle} {o o' : Object}

/-- Putting an object where it is changes nothing. -/
theorem setObject_self (d : Device) (handle : Handle) :
    d.setObject handle (d.session.object handle) = d := by
  unfold setObject Session.setObject
  have same : d.session.objects.setIfInBounds handle (d.session.object handle) =
      d.session.objects := by
    -- the arrays agree at every index, at that of the handle as well
    refine Array.ext (by simp) fun i _ inBounds => ?_
    rw [Array.getElem_setIfInBounds inBounds]
    split
    · next here =>
      subst here
      simp [Session.object, inBounds]
    · rfl
  rw [same]

/-- Of two objects put under one handle the second counts. -/
theorem setObject_setObject :
    (d.setObject handle o).setObject handle o' = d.setObject handle o' := by
  simp [setObject, Session.setObject]

/-- A number that is no handle stands for an object that takes nothing. -/
theorem known_of_live (live : (d.session.object handle).destroyed = false) :
    handle < d.session.objects.size := by
  by_contra unknown
  simp [Session.object, unknown, Session.noObject] at live

end Device

namespace SessionM

open Device

variable {d : Device} {scope : Scope} {variant : Variant} {handle : Handle} {o : Object}

/-- **A merge is all or nothing.** Where it fails, because the object is gone or because the update is
news that cannot be read, nothing has changed. Where it succeeds, the object of the handle has done
what a merge does, and nothing else has changed. -/
theorem merge_all_or_nothing (d : Device) (handle : Handle) (id : String) (data : Bytes) :
    match mergeObject handle id data d with
    | .error error d' => d' = d ∧
        (((d.session.object handle).destroyed = true ∧
            error = .gone (d.session.object handle).scope) ∨
          ∃ reason, (d.session.object handle).hasMerged id = false ∧
            (d.session.object handle).readUpdate data = .error reason ∧
            error = .corruptUpdate id reason)
    | .ok changed d' => d' = d.setObject handle (d'.session.object handle) ∧
        (d.session.object handle).Merged id data changed (d'.session.object handle) := by
  generalize same : d.session.object handle = o
  have looks : object handle d = .ok o d := congrArg (EStateM.Result.ok · d) same
  unfold mergeObject
  rw [bind_of_ok looks]
  cases merged : o.merge id data with
  | error error =>
    refine ⟨rfl, ?_⟩
    -- the error is that of the object, and the device was not touched
    rcases Object.merge_error_cases merged with gone | ⟨reason, -, unread⟩
    · exact .inl gone
    · exact .inr ⟨reason, unread⟩
  | ok result =>
    obtain ⟨changed, o'⟩ := result
    -- the object was live, so its handle is known, and what is put there is found there
    have known := known_of_live (same ▸ Object.live_of_merge merged)
    have now : (d.setObject handle o').session.object handle = o' := by
      rw [object_setObject, if_pos ⟨rfl, known⟩]
    change d.setObject handle o' = d.setObject handle ((d.setObject handle o').session.object handle) ∧
      o.Merged id data changed ((d.setObject handle o').session.object handle)
    rw [now]
    exact ⟨rfl, Object.merged_of_ok merged⟩

/-- **One update**, for an object of the scope and variant that has not ended. -/
theorem mergeUpdate_eq (isOpen : d.session.closed = false) (same : d.session.object handle = o)
    (hasVariant : o.variant = variant) (hasScope : o.scope = scope) (live : o.destroyed = false)
    (report : MergeReport) (update : Update) :
    mergeUpdate handle variant scope report update d =
      .ok (report ++ .of [(update, (o.take? d.session.ring update).map Prod.fst)])
        (d.setObject handle (o.take d.session.ring update)) := by
  subst hasVariant hasScope
  have looks : object handle d = .ok o d := congrArg (EStateM.Result.ok · d) same
  -- what is skipped leaves the object in its place
  have unmoved : d.setObject handle o = d := same ▸ setObject_self d handle
  let skip : MergeReport := { report with skipped := report.skipped ++ [update.hash] }
  have skipped : report ++ .of [(update, none)] = skip := by
    simp [MergeReport.append_eq, MergeReport.of, skip]
  rw [Object.take_eq]
  unfold mergeUpdate Object.take?
  rw [bind_of_ok (checkOpen_of_open isOpen), bind_of_ok (session_eq d)]
  -- an update that cannot be opened is skipped, with its hash in the report
  cases opened : d.session.ring.unwrap update.data o.variant.name o.scope.group? with
  | error error =>
    dsimp only [Option.map_none, Option.getD_none]
    rw [skipped, unmoved]
    rfl
  | ok data =>
    dsimp only
    rw [bind_of_ok looks]
    cases merged : o.merge update.hash data with
    | error error =>
      -- the object is live, so what fails is reading the update, and that is skipped as well
      rcases Object.merge_error_cases merged with ⟨gone, -⟩ | ⟨reason, -, -, -, rfl⟩
      · rw [live] at gone
        cases gone
      · dsimp only [Except.toOption, Option.map_none, Option.getD_none]
        rw [skipped, unmoved]
        rfl
    | ok result =>
      obtain ⟨changed, o'⟩ := result
      -- one more update was merged, and the report remembers whether any changed a value
      have counted : report ++ .of [(update, some changed)] = { report with
          merged := report.merged + 1, changed := report.changed || changed } := by
        simp [MergeReport.append_eq, MergeReport.of]
      dsimp only [Except.toOption, Option.map_some, Option.getD_some]
      rw [counted]
      rfl

/-- **A batch** does to the object what it does to the object alone, and reports that. -/
theorem mergeUpdates_eq (isOpen : d.session.closed = false)
    (known : handle < d.session.objects.size) (same : d.session.object handle = o)
    (hasVariant : o.variant = variant) (hasScope : o.scope = scope) (live : o.destroyed = false)
    (report : MergeReport) (updates : List Update) :
    updates.foldlM (mergeUpdate handle variant scope) report d =
      .ok (report ++ .of (o.outcomes d.session.ring updates))
        (d.setObject handle (o.received d.session.ring updates)) := by
  -- after each update the object still has its scope and variant and has not ended
  induction updates generalizing d o report with
  | nil =>
    have unmoved : d.setObject handle o = d := same ▸ setObject_self d handle
    have nothing : report ++ .of [] = report := by simp [MergeReport.append_eq, MergeReport.of]
    dsimp only [Object.outcomes, Object.received, List.foldl_nil]
    rw [nothing, unmoved]
    rfl
  -- the first update is taken with what is under the handle, the rest with what it left there
  | cons update updates ih =>
    let o₁ := o.take d.session.ring update
    have now : (d.setObject handle o₁).session.object handle = o₁ := by
      rw [object_setObject, if_pos ⟨rfl, known⟩]
    obtain ⟨keepsVariant, keepsScope, keepsLife⟩ := o.take_keeps d.session.ring update
    have first := mergeUpdate_eq isOpen same hasVariant hasScope live report update
    rw [List.foldlM_cons, bind_of_ok first, ih (d := d.setObject handle o₁) isOpen
      ((size_setObject ..).symm ▸ known) now (keepsVariant.trans hasVariant)
      (keepsScope.trans hasScope) (keepsLife.trans live), setObject_setObject,
      MergeReport.append_assoc, ← MergeReport.of_append]
    rfl

end SessionM

end ConfigReplica
