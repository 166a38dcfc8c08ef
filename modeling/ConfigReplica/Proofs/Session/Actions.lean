import ConfigReplica.Proofs.Session.Effects

/-!
# Actions as chains of effects

`Does deed P action Q` says what an action comes to when it starts on a tidy
device of which `P` holds: it goes on by effects of the deed, whether it fails or
not, and if it gives a result, `Q` holds of the result and of the device it leaves
behind.

The rules follow the way actions are put together: `Does.bind` for one action after
the other, `Does.attempt` for an action whose error is kept, `Does.forM`, `Does.mapM`
and `Does.foldlM` for lists. `Does.frame` brings along what no effect of the deed can
change. Below them stand the parts that all operations of a session are made of: steps
on the store, the removal marks, looking up an object and storing it.
-/

namespace ConfigReplica

open Config

/-! ### Actions as chains of effects -/

/-- From a tidy device where `P` holds the action goes on by effects of the deed, whether it fails
or not, and `Q` holds of what it gives. -/
structure Does (deed : Deed) {α : Type} (P : Device → Prop) (action : SessionM α)
    (Q : α → Device → Prop) : Prop where
  chain : ∀ {d}, d.Tidy → P d → Device.Chain deed d (stateAfter action d)
  post : ∀ {d x d'}, d.Tidy → P d → action d = .ok x d' → Q x d'

namespace Does

open SessionM

variable {deed : Deed} {α β : Type} {P P' : Device → Prop} {Q : α → Device → Prop}

/-- Less may be asked before an action, and less said after it, than the rule it came from has it.
-/
theorem imp {Q' : α → Device → Prop} {action : SessionM α} (does : Does deed P action Q)
    (before : ∀ {d}, P' d → P d) (after : ∀ {x d}, Q x d → Q' x d) :
    Does deed P' action Q' where
  chain tidy holds := does.chain tidy (before holds)
  post tidy holds ran := after (does.post tidy (before holds) ran)

/-- One action after the other: what the first leaves behind is what the second may rely on. -/
theorem bind {first : SessionM α} {next : α → SessionM β} {Q' : β → Device → Prop}
    (does : Does deed P first Q) (goesOn : ∀ x, Does deed (Q x) (next x) Q') :
    Does deed P (first >>= next) Q' where
  chain {d} tidy holds := by
    have chain := does.chain tidy holds
    cases ran : first d with
    | error error d' =>
      -- the second action is not reached, so the chain of the first is all there is
      rw [stateAfter_of_error ran] at chain
      rw [stateAfter_of_error (bind_of_error ran)]
      exact chain
    | ok x d' =>
      -- the second action starts on a device that is tidy still, since effects keep a device tidy
      rw [stateAfter_of_ok ran] at chain
      rw [stateAfter_bind_of_ok ran]
      exact chain.trans ((goesOn x).chain (chain.tidy tidy) (does.post tidy holds ran))
  post {d y d''} tidy holds ran := by
    have chain := does.chain tidy holds
    cases first' : first d with
    | error error d' =>
      rw [bind_of_error first'] at ran
      cases ran
    | ok x d' =>
      rw [bind_of_ok first'] at ran
      rw [stateAfter_of_ok first'] at chain
      exact (goesOn x).post (chain.tidy tidy) (does.post tidy holds first') ran

theorem pure (x : α) (holds : ∀ {d}, P d → Q x d) : Does deed P (Pure.pure x) Q where
  chain _ _ := .refl
  post _ before ran := by
    cases ran
    exact holds before

/-- An action may rely on a tidy device. -/
theorem tidied {action : SessionM α} (does : Does deed (fun d => d.Tidy ∧ P d) action Q) :
    Does deed P action Q where
  chain tidy holds := does.chain tidy ⟨tidy, holds⟩
  post tidy holds := does.post tidy ⟨tidy, holds⟩

/-- An action that only fails: nothing is to be shown of a result, since there is none. -/
theorem throw (error : Error) : Does deed P (throw error : SessionM α) Q where
  chain _ _ := .refl
  post _ _ ran := by cases ran

theorem look {action : SessionM α} {f : Device → α} (looks : ∀ d, action d = .ok (f d) d) :
    Does deed P action fun x d => P d ∧ x = f d where
  chain {d} _ _ := by
    rw [stateAfter_of_ok (looks d)]
  post {d x d'} _ before ran := by
    rw [looks] at ran
    cases ran
    exact ⟨before, rfl⟩

/-- An outcome that is known already, made into an action. -/
theorem ofExcept (outcome : Except Error α) :
    Does deed P (SessionM.ofExcept outcome) fun x d => P d ∧ outcome = .ok x := by
  cases outcome with
  | error error =>
    refine ⟨fun _ _ => .refl, fun _ _ ran => ?_⟩
    cases ran
  | ok x =>
    refine ⟨fun _ _ => .refl, fun _ before ran => ?_⟩
    cases ran
    exact ⟨before, rfl⟩

/-- An action that always succeeds, with one effect. -/
theorem act {action : SessionM α} {x : α} {f : Device → Device}
    (acts : ∀ d, action d = .ok x (f d))
    (effect : ∀ {d}, d.Tidy → P d → Device.Effect deed d (f d))
    (after : ∀ {d}, d.Tidy → P d → Q x (f d)) : Does deed P action Q where
  chain {d} tidy holds := by
    rw [stateAfter_of_ok (acts d)]
    exact .single (effect tidy holds)
  post {d y d'} tidy holds ran := by
    rw [acts] at ran
    cases ran
    exact after tidy holds

/-- An action whose error is kept as a value: the chain is the same one, whatever the outcome. -/
theorem attempt {action : SessionM α} (does : Does deed P action Q) :
    Does deed P (attempt action) fun outcome d => ∀ x, outcome = .ok x → Q x d where
  chain {d} tidy holds := by
    have chain := does.chain tidy holds
    unfold stateAfter SessionM.attempt
    unfold stateAfter at chain
    cases ran : action d with
    | ok x d' =>
      rw [ran] at chain
      exact chain
    | error error d' =>
      rw [ran] at chain
      exact chain
  -- of a kept error nothing is claimed
  post {d outcome d'} tidy holds ran := by
    unfold SessionM.attempt at ran
    cases inner : action d with
    | ok x d'' =>
      rw [inner] at ran
      cases ran
      rintro _ ⟨⟩
      exact does.post tidy holds inner
    | error error d'' =>
      rw [inner] at ran
      cases ran
      rintro _ ⟨⟩

/-- What no effect of the deed can change still holds afterwards. -/
theorem frame {action : SessionM α} (does : Does deed P action Q) {R : Device → Prop}
    (stable : ∀ {d d'}, Device.Effect deed d d' → R d → R d') :
    Does deed (fun d => P d ∧ R d) action fun x d => Q x d ∧ R d where
  chain tidy holds := does.chain tidy holds.1
  post {d x d'} tidy holds ran := by
    refine ⟨does.post tidy holds.1 ran, ?_⟩
    -- the action is a chain of effects, and each of them keeps it
    have chain := does.chain tidy holds.1
    rw [stateAfter_of_ok ran] at chain
    exact chain.keeps stable holds.2

/-- What only looks may be done on behalf of every deed. -/
theorem lift {action : SessionM α} (does : Does .look P action Q) :
    Does deed P action Q where
  chain tidy holds :=
    Relation.ReflTransGen.mono (fun _ _ => Device.Effect.of_look) _ _ (does.chain tidy holds)
  post := does.post

section Lists

variable {γ : Type}

/-- Going through a list with an action that keeps an invariant. -/
theorem forM {f : γ → SessionM PUnit} (items : List γ)
    (each : ∀ x ∈ items, Does deed P (f x) fun _ d => P d) :
    Does deed P (items.forM f) fun _ d => P d := by
  -- the induction is on the list: the invariant holds again before the rest of it
  induction items with
  | nil => exact pure _ id
  | cons x items ih =>
    change Does deed P (f x >>= fun _ => items.forM f) _
    exact (each x List.mem_cons_self).bind fun _ =>
      ih fun y mem => each y (List.mem_cons_of_mem x mem)

/-- Going through a list and keeping the results, with an action that keeps an invariant. -/
theorem mapM {f : γ → SessionM α} (items : List γ)
    (each : ∀ x ∈ items, Does deed P (f x) fun _ d => P d) :
    Does deed P (items.mapM f) fun _ d => P d := by
  induction items with
  | nil =>
    rw [List.mapM_nil]
    exact pure _ id
  | cons x items ih =>
    rw [List.mapM_cons]
    refine (each x List.mem_cons_self).bind fun _ => ?_
    exact (ih fun y mem => each y (List.mem_cons_of_mem x mem)).bind fun _ => pure _ id

/-- Folding over a list with an action that keeps an invariant of the device. -/
theorem foldlM {f : α → γ → SessionM α} (items : List γ) (first : α)
    (each : ∀ x, ∀ y ∈ items, Does deed P (f x y) fun _ d => P d) :
    Does deed P (items.foldlM f first) fun _ d => P d := by
  induction items generalizing first with
  | nil => exact pure _ id
  | cons y items ih =>
    rw [List.foldlM_cons]
    exact (each first y List.mem_cons_self).bind fun x =>
      ih x fun x z mem => each x z (List.mem_cons_of_mem y mem)

end Lists

end Does

namespace SessionM

open Device

variable {deed : Deed} {α : Type} {P : Device → Prop}

/-! ### The store -/

section Store

variable {γ : Type} (codec : Codec γ) (table : Table) (key : String) (bytes : Bytes) (d : Device)

/-- Loading notes the read; it fails, or gives what the row decodes to. -/
theorem onStore_load_cases :
    (∃ value, onStore (StoreM.load codec table key) d = .ok value (d.noted (.read ⟨table, key⟩)) ∧
      match d.store.row? ⟨table, key⟩ with
      | none => value = none
      | some bytes => ∃ x, codec.decode bytes = .ok x ∧ value = some x) ∨
    ∃ error, onStore (StoreM.load codec table key) d =
      .error error (d.noted (.read ⟨table, key⟩)) := by
  unfold onStore
  rcases StoreM.load_cases codec table key d.store with ⟨value, ran, row⟩ | ⟨error, ran⟩
  · rw [ran]
    exact .inl ⟨value, rfl, row⟩
  · rw [ran]
    exact .inr ⟨error, rfl⟩

/-- Loading a row that is there and that decodes. -/
theorem onStore_load_of_row {x : γ} {bytes : Bytes}
    (works : d.store.fault d.store.past (.read ⟨table, key⟩) = none)
    (row : d.store.row? ⟨table, key⟩ = some bytes) (decoded : codec.decode bytes = .ok x) :
    onStore (StoreM.load codec table key) d = .ok (some x) (d.noted (.read ⟨table, key⟩)) := by
  unfold onStore
  rw [StoreM.load_of_row codec _ _ _ works row decoded]
  rfl

/-- Loading from a cell without a row. -/
theorem onStore_load_of_free (works : d.store.fault d.store.past (.read ⟨table, key⟩) = none)
    (free : d.store.row? ⟨table, key⟩ = none) :
    onStore (StoreM.load codec table key) d = .ok none (d.noted (.read ⟨table, key⟩)) := by
  unfold onStore
  rw [StoreM.load_of_free codec _ _ _ works free]
  rfl

/-- Loading what the store refuses to read. -/
theorem onStore_load_of_fault {text : String}
    (refused : d.store.fault d.store.past (.read ⟨table, key⟩) = some text) :
    onStore (StoreM.load codec table key) d =
      .error (.storage text) (d.noted (.read ⟨table, key⟩)) := by
  unfold onStore
  rw [StoreM.load_of_fault codec _ _ _ refused]
  rfl

/-- Putting a row, all told. -/
theorem onStore_put :
    onStore (StoreM.put table key bytes) d =
      match d.store.fault d.store.past (.write ⟨table, key⟩) with
      | none => .ok () ((d.noted (.write ⟨table, key⟩)).setRow ⟨table, key⟩ bytes)
      | some text => .error (.storage text) (d.noted (.write ⟨table, key⟩)) := by
  unfold onStore
  rw [StoreM.put_eq]
  cases d.store.fault d.store.past (.write ⟨table, key⟩) <;> rfl

/-- Deleting a row, all told. -/
theorem onStore_delete :
    onStore (StoreM.delete table key) d =
      match d.store.fault d.store.past (.delete ⟨table, key⟩) with
      | none => .ok () ((d.noted (.delete ⟨table, key⟩)).eraseRow ⟨table, key⟩)
      | some text => .error (.storage text) (d.noted (.delete ⟨table, key⟩)) := by
  unfold onStore
  rw [StoreM.delete_eq]
  cases d.store.fault d.store.past (.delete ⟨table, key⟩) <;> rfl

end Store

/-- A step that the store takes note of. -/
theorem effect_noted (d : Device) (step : Access) : Effect deed d (d.noted step) :=
  .aside (.noted d step)

/-- **Loading** changes no row and gives what the row decodes to. -/
theorem does_load {γ : Type} (codec : Codec γ) (table : Table) (key : String)
    (framed : ∀ {d} (step : Access), P d → P (d.noted step)) :
    Does deed P (onStore (StoreM.load codec table key)) fun value d => P d ∧
      match d.store.row? ⟨table, key⟩ with
      | none => value = none
      | some bytes => ∃ x, codec.decode bytes = .ok x ∧ value = some x where
  chain {d} _ _ := by
    rcases onStore_load_cases codec table key d with ⟨value, ran, -⟩ | ⟨error, ran⟩
    · rw [stateAfter_of_ok ran]
      exact .single (effect_noted d _)
    · rw [stateAfter_of_error ran]
      exact .single (effect_noted d _)
  post {d x d'} _ holds ran := by
    rcases onStore_load_cases codec table key d with ⟨value, got, row⟩ | ⟨error, got⟩
    · rw [got] at ran
      cases ran
      exact ⟨framed _ holds, row⟩
    · rw [got] at ran
      cases ran

/-- Putting a row, unless the store refuses it. -/
theorem does_put {R : Device → Prop} (table : Table) (key : String) (bytes : Bytes)
    (framed : ∀ {d} (step : Access), P d → P (d.noted step))
    (effect : ∀ {d}, d.Tidy → P d → Effect deed d (d.setRow ⟨table, key⟩ bytes))
    (after : ∀ {d}, P d → R (d.setRow ⟨table, key⟩ bytes)) :
    Does deed P (onStore (StoreM.put table key bytes)) fun _ d => R d where
  chain {d} tidy holds := by
    -- the step is noted first, and only an admitted one changes the row
    have noted : Effect deed d (d.noted (.write ⟨table, key⟩)) := effect_noted d _
    have ran := onStore_put table key bytes d
    split at ran
    · rw [stateAfter_of_ok ran]
      exact .tail (.single noted) (effect (noted.tidy tidy) (framed _ holds))
    · rw [stateAfter_of_error ran]
      exact .single noted
  post {d _ d'} _ holds ran := by
    rw [onStore_put] at ran
    split at ran
    · cases ran
      exact after (framed _ holds)
    · cases ran

/-- Deleting a row, unless the store refuses it. -/
theorem does_delete (table : Table) (key : String)
    (framed : ∀ {d} (step : Access), P d → P (d.noted step))
    (effect : ∀ {d}, d.Tidy → P d → Effect deed d (d.eraseRow ⟨table, key⟩)) :
    Does deed P (onStore (StoreM.delete table key)) fun _ d =>
      d.store.row? ⟨table, key⟩ = none where
  chain {d} tidy holds := by
    -- as for putting: the step is noted before the row is gone
    have noted : Effect deed d (d.noted (.delete ⟨table, key⟩)) := effect_noted d _
    have ran := onStore_delete table key d
    split at ran
    · rw [stateAfter_of_ok ran]
      exact .tail (.single noted) (effect (noted.tidy tidy) (framed _ holds))
    · rw [stateAfter_of_error ran]
      exact .single noted
  post {d _ d'} _ holds ran := by
    rw [onStore_delete] at ran
    split at ran
    · cases ran
      rw [row?_eraseRow, if_pos rfl]
    · cases ran

/-! ### Looking -/

/-- Asking for the session. -/
theorem does_session : Does deed P session fun s d => P d ∧ s = d.session :=
  .look fun _ => rfl

/-- Asking for the time. -/
theorem does_now : Does deed P now fun time d => P d ∧ time = d.clock :=
  .look fun _ => rfl

/-- Asking for an object. -/
theorem does_object (handle : Handle) :
    Does deed P (object handle) fun o d => P d ∧ o = d.session.object handle :=
  .look fun _ => rfl

/-- A check that passes has found the session open. -/
theorem does_checkOpen :
    Does deed P checkOpen fun _ d => P d ∧ d.session.closed = false := by
  unfold checkOpen
  refine does_session.bind fun s => ?_
  cases ended : s.closed with
  | true => exact .throw _
  | false =>
    refine .pure _ ?_
    rintro d ⟨holds, rfl⟩
    exact ⟨holds, ended⟩

/-- A change of the session that no statement speaks of. -/
theorem does_modifyAside {f : Session → Session}
    (same : ∀ d : Device, Aside d { d with session := f d.session })
    (framed : ∀ {d : Device}, P d → P { d with session := f d.session }) :
    Does deed P (modifySession f) fun _ d => P d :=
  .act (f := fun d => { d with session := f d.session }) (fun _ => rfl)
    (fun _ _ => .aside (same _)) fun _ holds => framed holds

/-- A change of the schedule, of which no statement speaks. -/
theorem does_modifySchedule (f : Schedule → Schedule)
    (framed : ∀ {d : Device} (schedule : Schedule), P d →
      P { d with session := { d.session with schedule } }) :
    Does deed P (modifySchedule f) fun _ d => P d :=
  does_modifyAside (fun _ => {}) (framed _)

/-! ### Removal marks -/

/-- What was loaded from the row of the marks are the stored marks. -/
theorem marksStored_of_loaded {d : Device} {value : Option RemovalMarks}
    (row : match d.store.row? RemovalMarks.cell with
      | none => value = none
      | some bytes => ∃ x, RemovalMarks.codec.decode bytes = .ok x ∧ value = some x) :
    d.MarksStored (value.getD ∅) := by
  unfold MarksStored
  split
  · -- no row, so the marks are those of a fresh device: none
    next none =>
    rw [none] at row
    rw [row]
    rfl
  · next bytes some =>
    rw [some] at row
    obtain ⟨marks, decoded, rfl⟩ := row
    exact decoded

/-- **Reading the marks** leaves them in memory. -/
theorem does_marks :
    Does deed (fun _ => True) marks fun marks d => d.session.removed = some marks := by
  unfold marks
  refine does_session.bind fun s => ?_
  -- either the marks are in memory already, or they are read now
  cases known : s.removed with
  | some marks =>
    refine .pure _ ?_
    rintro d ⟨-, rfl⟩
    exact known
  | none =>
    have unread : ∀ {d : Device}, True ∧ s = d.session → d.session.removed = none := by
      rintro d ⟨-, rfl⟩
      exact known
    -- that the marks are unread is remembered over the step on the store
    refine ((does_load (P := fun d => d.session.removed = none) _ _ _
      fun _ unread => unread).imp unread id).bind fun stored => ?_
    refine Does.bind (Q := fun _ d => d.session.removed = some (stored.getD ∅)) ?_
      fun _ => .pure _ id
    refine .act (f := fun d => d.setMarks (stored.getD ∅)) (fun _ => rfl) ?_ fun _ _ => rfl
    rintro d - ⟨unread, row⟩
    exact .recalled unread (marksStored_of_loaded row)

/-- Asking for the cutoff of the marks. -/
theorem does_markCutoff : Does deed P markCutoff fun since d => P d ∧ since = d.cutoff :=
  .look fun _ => rfl

/-- **A check that passes** found no mark that stands. -/
theorem does_checkPresent (scope : Scope) :
    Does .look (fun _ => True) (checkPresent scope) fun _ d => d.Present scope := by
  have refuses : ∀ removed, Does .look (fun d => removed = false → d.Present scope)
      (if removed = true then throw (.gone scope) else pure PUnit.unit : SessionM PUnit)
      fun _ d => d.Present scope := by
    intro removed
    -- the check fails on a mark that stands, so of what passes only the other case is left
    cases removed with
    | true => exact .throw _
    | false => exact .pure _ fun present => present rfl
  unfold checkPresent
  refine Does.bind ?_ refuses
  cases scope with
  -- the account is never removed
  | account => exact .pure _ fun _ _ group other => nomatch other
  | group group =>
    refine does_markCutoff.bind fun since => ?_
    -- reading the marks leaves the clock alone
    refine (does_marks.frame (R := fun d => since = d.cutoff)
      fun effect same => same.trans effect.cutoff_eq.symm).bind fun marks => ?_
    refine .pure _ ?_
    rintro d ⟨known, rfl⟩ absent _ ⟨rfl⟩
    refine ⟨marks, known, fun time mark stands => ?_⟩
    rw [mark] at absent
    simp [stands] at absent

/-- The marks in memory came of a change, and so did those in the store. -/
def Remarked (f : RemovalMarks → RemovalMarks) (d : Device) : Prop :=
  ∃ before, d.session.removed = some ((f before).filter fun _ time => d.cutoff ≤ time) ∧
    d.store.row? RemovalMarks.cell =
      some (RemovalMarks.codec.write ((f before).filter fun _ time => d.cutoff ≤ time))

/-- **Changing the marks**: they are read, changed and stored. -/
theorem does_updateMarks {f : RemovalMarks → RemovalMarks} {time : Int64}
    (change : deed.Remarks time f) :
    Does deed (fun d => d.clock = time) (updateMarks f) fun _ => Remarked f := by
  unfold updateMarks
  -- the time is the one that the change speaks of, also after the marks were read
  refine ((does_marks.frame (R := fun d => d.clock = time) fun effect same =>
    effect.steady.1.trans same).imp (fun same => ⟨trivial, same⟩) id).bind fun before => ?_
  refine does_markCutoff.bind fun since => ?_
  refine Does.bind (Q := fun _ d => d.clock = time ∧ since = d.cutoff ∧ d.session.removed =
    some ((f before).filter fun _ time => since ≤ time)) ?_ fun _ => ?_
  · -- first the marks in memory change
    refine .act (f := fun d => d.setMarks ((f before).filter fun _ time => since ≤ time))
      (fun _ => rfl) ?_ fun _ holds => ⟨holds.1.2, holds.2, rfl⟩
    rintro d - ⟨⟨known, rfl⟩, rfl⟩
    exact .remarked change known
  · -- then they are saved, under the same clock
    refine does_put _ _ _ (fun _ holds => holds)
      (fun _ holds => .markSaved (holds.1 ▸ change) holds.2.2) ?_
    rintro d ⟨-, rfl, known⟩
    refine ⟨before, known, ?_⟩
    rw [row?_setRow]
    exact if_pos rfl

/-! ### Objects -/

/-- **Loading an object** gives what its row holds, or a fresh one where there is no row. -/
theorem does_loadObject (variant : Variant) (scope : Scope)
    (framed : ∀ {d d'}, Aside d d' → P d → P d') :
    Does deed P (loadObject variant scope) fun o d => P d ∧ d.Loads scope variant o := by
  unfold loadObject
  refine (does_load _ _ _ fun step => framed (.noted _ step)).bind fun stored => ?_
  cases stored with
  | none =>
    -- the random draw leaves the store alone, so there is still no row after it
    change Does deed _ (drawWord >>= fun origin => session >>= fun s =>
      Pure.pure ((Object.blank variant scope origin).withMemory s.settings.memory)) _
    refine Does.bind (Q := fun _ d => P d ∧
      d.store.row? ⟨.configs, scope.slotKey variant⟩ = none) ?_ fun origin => ?_
    · refine ⟨fun {d} _ _ => .single (.aside ?_), ?_⟩
      · exact {}
      · rintro d _ _ - ⟨holds, row⟩ ⟨⟩
        -- the draw changes neither rows nor session, so this device and the one before it agree
        refine ⟨framed {} holds, ?_⟩
        change d.store.row? _ = none
        split at row
        · next none => exact none
        · obtain ⟨_, -, some⟩ := row
          cases some
    · refine does_session.bind fun s => .pure _ ?_
      rintro d ⟨⟨holds, none⟩, rfl⟩
      refine ⟨holds, ?_⟩
      unfold Loads Scope.cell
      rw [none]
      exact ⟨origin, rfl⟩
  | some stored =>
    -- a row that decodes: what was read is the dump the object is built from
    refine (Does.ofExcept _).bind fun p => does_session.bind fun s => .pure _ ?_
    rintro d ⟨⟨⟨holds, row⟩, loaded⟩, rfl⟩
    refine ⟨holds, ?_⟩
    unfold Loads Scope.cell
    split
    · next none =>
      rw [none] at row
      cases row
    · next bytes some =>
      rw [some] at row
      obtain ⟨x, decoded, ⟨rfl⟩⟩ := row
      exact ⟨stored, p, decoded, loaded, rfl⟩

/-- **Looking up an object** loads it if need be, and gives its handle. -/
theorem does_find (handles : deed.Handles) (variant : Variant) (scope : Scope) :
    Does deed (fun _ => True) (find variant scope) fun handle d =>
      d.Placed scope variant handle := by
  unfold find
  refine does_checkOpen.bind fun _ => (Does.ofExcept _).bind fun _ => does_session.bind fun s => ?_
  cases found : (s.slot scope)[variant]? with
  | some handle =>
    -- a known handle is given as it is
    refine .pure _ ?_
    rintro d ⟨-, rfl⟩
    exact found
  | none =>
    have admits : scope.check variant = .ok () → scope.admits variant = true := by
      unfold Scope.check
      split
      · next admitted => exact fun _ => admitted
      · exact fun refused => by cases refused
    -- what the checks found holds until the object is put into its slot
    let free (d : Device) : Prop := d.session.closed = false ∧ scope.admits variant = true ∧
      (d.session.slot scope)[variant]? = none
    refine Does.bind (Q := fun _ => free) ?_ fun _ => ?_
    · -- the slot of the scope is made, if it was not there
      refine .act (f := fun d => d.setSlot scope (d.session.slot scope)) (fun _ => rfl) ?_ ?_
      · rintro d - ⟨⟨⟨-, isOpen⟩, -⟩, rfl⟩
        exact .touched handles scope isOpen
      · rintro d - ⟨⟨⟨-, isOpen⟩, checked⟩, rfl⟩
        refine ⟨isOpen, admits checked, ?_⟩
        rw [slot_setSlot, if_pos rfl]
        exact found
    · -- then the object is loaded, which leaves the slot free
      refine (does_loadObject variant scope ?_).bind fun o => ?_
      · rintro d d' same ⟨isOpen, admitted, none⟩
        refine ⟨same.closed.trans isOpen, admitted, ?_⟩
        unfold Session.slot
        rw [same.slots]
        exact none
      · -- and is put into the slot, under the next handle
        refine does_session.bind fun s => ?_
        refine Does.bind (Q := fun _ d => d.Placed scope variant s.objects.size) ?_
          fun _ => .pure _ id
        refine .act (fun _ => rfl) ?_ ?_
        · rintro d - ⟨⟨⟨isOpen, admitted, none⟩, loads⟩, rfl⟩
          exact .adopted handles isOpen admitted none loads
        · rintro d - ⟨-, rfl⟩
          exact (placed_adopt ..).mpr (by simp)

/-- Reading an object finds its handle first. -/
theorem does_read (handles : deed.Handles) (variant : Variant) (scope : Scope) :
    Does deed (fun _ => True) (read variant scope) fun o d =>
      ∃ handle, d.Placed scope variant handle ∧ o = d.session.object handle := by
  unfold read
  exact (does_find handles variant scope).bind fun handle =>
    (does_object handle).imp id fun ⟨placed, same⟩ => ⟨handle, placed, same⟩

/-- The objects of the account are looked up one after the other. -/
theorem does_accountObjects (handles : deed.Handles) :
    Does deed (fun _ => True) accountObjects fun _ _ => True :=
  .mapM _ fun _ _ => (does_find handles _ _).imp id fun _ => trivial

/-! ### Lookups that succeed -/

section Lookups

variable {d d' : Device} {scope : Scope} {variant : Variant} {handle : Handle} {o : Object}

/-- Asking for the session succeeds and changes nothing. -/
theorem session_eq (d : Device) : session d = .ok d.session d := rfl

/-- The check of an open session passes. -/
theorem checkOpen_of_open (isOpen : d.session.closed = false) : checkOpen d = .ok () d := by
  unfold checkOpen
  rw [bind_of_ok (session_eq d), isOpen]
  rfl

/-- The check of a variant that the scope admits passes. -/
theorem check_of_admits (admitted : scope.admits variant = true) (d : Device) :
    SessionM.ofExcept (scope.check variant) d = .ok () d := by
  have passes : scope.check variant = .ok () := if_pos admitted
  rw [passes]
  rfl

/-- Reading marks that are in memory. -/
theorem marks_of_known {known : RemovalMarks} (read : d.session.removed = some known) :
    marks d = .ok known d := by
  unfold marks
  rw [bind_of_ok (session_eq d), read]
  rfl

/-- Whether a group counts as removed, once the marks are read. -/
theorem isRemoved_of_marks {known : RemovalMarks} (read : marks d = .ok known d')
    (group : GroupId) :
    isRemoved (.group group) d = .ok (known[group]?.any fun time => d.cutoff ≤ time) d' := by
  have sees : markCutoff d = .ok d.cutoff d := rfl
  rw [isRemoved, bind_of_ok sees, bind_of_ok read]
  rfl

/-- The check of a group, once the marks are read. -/
theorem checkPresent_of_marks {known : RemovalMarks} (read : marks d = .ok known d')
    (group : GroupId) :
    checkPresent (.group group) d =
      if known[group]?.any fun time => d.cutoff ≤ time then .error (.gone (.group group)) d'
      else .ok () d' := by
  unfold checkPresent
  rw [bind_of_ok (isRemoved_of_marks read group)]
  split <;> rfl

/-- Nothing is known of a group where the marks cannot be read. -/
theorem isRemoved_of_unread {error : Error} (failed : marks d = .error error d')
    (group : GroupId) : isRemoved (.group group) d = .error error d' := by
  have sees : markCutoff d = .ok d.cutoff d := rfl
  rw [isRemoved, bind_of_ok sees, bind_of_error failed]

/-- The check of a group, where the marks cannot be read. -/
theorem checkPresent_of_unread {error : Error} (failed : marks d = .error error d')
    (group : GroupId) : checkPresent (.group group) d = .error error d' :=
  bind_of_error (isRemoved_of_unread failed group)

/-- Looking up an object that is in its slot. -/
theorem find_of_placed (isOpen : d.session.closed = false) (admitted : scope.admits variant = true)
    (placed : d.Placed scope variant handle) : find variant scope d = .ok handle d := by
  unfold find
  rw [bind_of_ok (checkOpen_of_open isOpen), bind_of_ok (check_of_admits admitted d),
    bind_of_ok (session_eq d), placed]
  rfl

/-- Loading an object from its row. -/
theorem loadObject_of_row {bytes : Bytes} {stored : StoredObject}
    (works : d.store.fault d.store.past (.read (scope.cell variant)) = none)
    (row : d.store.row? (scope.cell variant) = some bytes)
    (decoded : StoredObject.codec.decode bytes = .ok stored)
    (loaded : Object.load variant scope stored.dump = .ok o) :
    loadObject variant scope d = .ok (o.withMemory d.session.settings.memory)
      (d.noted (.read (scope.cell variant))) := by
  have gives : onStore (StoreM.load StoredObject.codec .configs (scope.slotKey variant)) d =
      .ok (some stored) (d.noted (.read (scope.cell variant))) :=
    onStore_load_of_row _ _ _ _ works row decoded
  unfold loadObject
  rw [bind_of_ok gives]
  dsimp only
  rw [loaded]
  rfl

/-- Looking up an object that is in no slot yet. -/
theorem find_of_free (isOpen : d.session.closed = false) (admitted : scope.admits variant = true)
    (free : (d.session.slot scope)[variant]? = none)
    (loads : loadObject variant scope (d.setSlot scope (d.session.slot scope)) = .ok o d') :
    find variant scope d = .ok d'.session.objects.size (d'.adopt scope variant o) := by
  unfold find
  rw [bind_of_ok (checkOpen_of_open isOpen), bind_of_ok (check_of_admits admitted d),
    bind_of_ok (session_eq d), free]
  exact (bind_of_ok (show modifySession _ d = .ok () _ from rfl)).trans (bind_of_ok loads)

/-- Reading an object that is in no slot yet. -/
theorem read_of_free (isOpen : d.session.closed = false) (admitted : scope.admits variant = true)
    (free : (d.session.slot scope)[variant]? = none)
    (loads : loadObject variant scope (d.setSlot scope (d.session.slot scope)) = .ok o d') :
    read variant scope d = .ok o (d'.adopt scope variant o) := by
  have looks : object d'.session.objects.size (d'.adopt scope variant o) =
      .ok o (d'.adopt scope variant o) := by
    have new : (d'.adopt scope variant o).session.object d'.session.objects.size = o := by
      rw [object_adopt, if_pos rfl]
    exact congrArg (EStateM.Result.ok · _) new
  unfold read
  rw [bind_of_ok (find_of_free isOpen admitted free loads), looks]

end Lookups

/-! ### Storing -/

/-- **Storing an object** that is in its slot, if its scope was not removed. -/
theorem does_persistObject {scope : Scope} {variant : Variant} (stores : deed.Stores)
    (handle : Handle) (time : Int64) :
    Does deed (fun d => d.Placed scope variant handle) (persistObject handle time)
      fun _ d => d.Placed scope variant handle ∧ (d.session.object handle).needsDump = false := by
  unfold persistObject
  refine (does_object handle).bind fun o => ?_
  cases ended : o.destroyed with
  | true => exact .throw _
  | false =>
    -- the check may read the marks, and leaves the object alone
    let before (d : Device) : Prop :=
      d.Placed scope variant handle ∧ o = d.session.object handle
    have looking : ∀ {d d' : Device}, Effect .look d d' → before d → before d' := by
      rintro d d' effect ⟨placed, same⟩
      obtain ⟨objects, slots, -⟩ := effect.looked
      unfold before Placed Session.slot Session.object
      rw [objects, slots]
      exact ⟨placed, same⟩
    refine Does.bind (((does_checkPresent o.scope).frame looking).lift.imp
      (fun holds => ⟨trivial, holds⟩) id) fun _ => ?_
    have saved (d : Device) := onStore_put .configs (o.scope.slotKey o.variant)
      (StoredObject.codec.write { time, dump := o.dump }) d
    -- writing the row and taking the mark off are one effect, for nothing comes between them
    change Does deed _ (onStore (StoreM.put _ _ _) >>= fun _ => setObject handle o.markDumped) _
    refine ⟨fun {d} _ holds => ?_, fun {d x d'} tidy holds ran => ?_⟩
    · obtain ⟨present, placed, same⟩ := holds
      have noted (step : Access) : Effect deed d (d.noted step) := effect_noted d step
      have ran := saved d
      split at ran
      · rw [stateAfter, bind_of_ok ran]
        exact .tail (.single (noted _))
          (.stored (d := d.noted _) stores same.symm placed time ended present)
      · rw [stateAfter_of_error (bind_of_error ran)]
        exact .single (noted _)
    · have first := saved d
      split at first
      · rw [bind_of_ok first] at ran
        cases ran
        refine ⟨holds.2.1, ?_⟩
        have known := (tidy scope variant handle holds.2.1).1
        have put : (d.setObject handle o.markDumped).session.object handle = o.markDumped := by
          rw [object_setObject, if_pos ⟨rfl, known⟩]
        exact congrArg Object.needsDump put
      · rw [bind_of_error first] at ran
        cases ran

end SessionM

end ConfigReplica
