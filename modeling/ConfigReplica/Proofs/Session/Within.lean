import ConfigReplica.Proofs.Session.Actions

/-!
# Actions within a relation

An action is within a relation if it leads from where it starts to where it ends by steps
of that relation, whether it fails or not (`Within`). The rules follow the way actions are
put together, so that an action is within a relation as soon as its parts are; nothing
need be known of what the parts give.

To check a scope and to look up an object a session does no more than `SessionM.Looking`
has steps for, so that both are within every relation with these.

A flush and the background loop are put together of four operations and of what the
network does, and are within a relation if these are (`OnlineM.within_flush`,
`OnlineM.within_loopStep`, `OnlineM.within_pass`).
-/

namespace ConfigReplica

variable {σ α β γ : Type}

/-- From wherever it starts the action goes on by steps of a relation, whether it fails or not. -/
def Within (r : σ → σ → Prop) (action : EStateM Error σ α) : Prop :=
  ∀ s, Relation.ReflTransGen r s (stateAfter action s)

namespace Within

variable {r : σ → σ → Prop}

theorem pure (x : α) : Within r (Pure.pure x : EStateM Error σ α) :=
  fun _ => .refl

theorem throw (error : Error) : Within r (throw error : EStateM Error σ α) :=
  fun _ => .refl

/-- One action after the other: the second is asked about whatever the first gives. -/
theorem bind {first : EStateM Error σ α} {next : α → EStateM Error σ β} (within : Within r first)
    (goesOn : ∀ x, Within r (next x)) : Within r (first >>= next) :=
  fun s => stateAfter_bind .trans (within s) goesOn

theorem step {action : EStateM Error σ α} (steps : ∀ s, r s (stateAfter action s)) :
    Within r action :=
  fun s => .single (steps s)

theorem look {action : EStateM Error σ α} {f : σ → α} (looks : ∀ s, action s = .ok (f s) s) :
    Within r action := by
  intro s
  rw [stateAfter_of_ok (looks s)]

theorem forM {f : γ → EStateM Error σ PUnit} (items : List γ) (each : ∀ x, Within r (f x)) :
    Within r (items.forM f) := by
  induction items with
  | nil => exact pure _
  | cons x items ih =>
    change Within r (f x >>= fun _ => items.forM f)
    exact (each x).bind fun _ => ih

theorem mapM {f : γ → EStateM Error σ α} (items : List γ) (each : ∀ x, Within r (f x)) :
    Within r (items.mapM f) := by
  induction items with
  | nil =>
    rw [List.mapM_nil]
    exact pure _
  | cons x items ih =>
    rw [List.mapM_cons]
    exact (each x).bind fun _ => ih.bind fun _ => pure _

theorem foldlM {f : α → γ → EStateM Error σ α} (items : List γ) (first : α)
    (each : ∀ x y, Within r (f x y)) : Within r (items.foldlM f first) := by
  induction items generalizing first with
  | nil => exact pure _
  | cons y items ih =>
    rw [List.foldlM_cons]
    exact (each first y).bind fun x => ih x

end Within

/-! ### Sessions -/

namespace SessionM

variable {r : Device → Device → Prop}

/-- An action whose error is kept takes the same steps. -/
theorem within_attempt {action : SessionM α} (within : Within r action) :
    Within r (attempt action) := by
  intro d
  have steps := within d
  unfold stateAfter attempt
  unfold stateAfter at steps
  cases ran : action d <;>
    · rw [ran] at steps
      exact steps

/-- A known outcome takes no step. -/
theorem within_ofExcept (outcome : Except Error α) : Within r (ofExcept outcome) := by
  cases outcome with
  | ok x => exact .pure x
  | error error => exact .throw error

/-- Asking for the session. -/
theorem within_session : Within r session :=
  .look fun _ => rfl

/-- The check of the session only looks. -/
theorem within_checkOpen : Within r checkOpen := by
  unfold checkOpen
  refine within_session.bind fun s => ?_
  split
  · exact .throw _
  · exact .pure _

/-- Asking for an object. -/
theorem within_object (handle : Handle) : Within r (object handle) :=
  .look fun _ => rfl

/-- Asking for the time. -/
theorem within_now : Within r now :=
  .look fun _ => rfl

/-- **The steps of looking things up**: a row is read, marks are taken over from their row, a scope
is looked at, and an object is put into its slot, for which its origin is drawn. -/
structure Looking (r : Device → Device → Prop) : Prop where
  read : ∀ d cell, r d (d.noted (.read cell))
  recalled : ∀ d marks, r d (d.setMarks marks)
  touched : ∀ d scope slot, r d (d.setSlot scope slot)
  adopted : ∀ d scope variant o, r d (d.adopt scope variant o)
  drawn : ∀ (d : Device) entropy, r d { d with entropy }

namespace Looking

variable (looking : Looking r)

include looking

/-- Loading reads a row, whatever becomes of that. -/
theorem within_load (codec : Codec γ) (table : Table) (key : String) :
    Within r (onStore (StoreM.load codec table key)) := by
  refine .step fun d => ?_
  rcases onStore_load_cases codec table key d with ⟨value, ran, -⟩ | ⟨error, ran⟩
  · rw [stateAfter_of_ok ran]
    exact looking.read d _
  · rw [stateAfter_of_error ran]
    exact looking.read d _

/-- The marks are in memory, or are read and kept there. -/
theorem within_marks : Within r marks := by
  unfold marks
  refine within_session.bind fun s => ?_
  split
  · exact .pure _
  · refine (looking.within_load _ _ _).bind fun stored => ?_
    exact (Within.step fun d => looking.recalled d _).bind fun _ => .pure _

/-- The check of a scope at most reads the marks. -/
theorem within_checkPresent (scope : Scope) : Within r (checkPresent scope) := by
  have removed : Within r (isRemoved scope) := by
    cases scope with
    | account => exact .pure _
    | group id =>
      have since : Within r markCutoff := .look fun _ => rfl
      exact since.bind fun since => looking.within_marks.bind fun marks => .pure _
  unfold checkPresent
  refine removed.bind fun removed => ?_
  split
  · exact .throw _
  · exact .pure _

/-- Loading an object reads its row; for a new one the origin is drawn. -/
theorem within_loadObject (variant : Variant) (scope : Scope) :
    Within r (loadObject variant scope) := by
  unfold loadObject
  refine (looking.within_load _ _ _).bind fun stored => ?_
  cases stored with
  | some stored => exact (within_ofExcept _).bind fun o => within_session.bind fun s => .pure _
  | none =>
    have drawn : Within r drawWord := .step fun d => looking.drawn d _
    change Within _ (drawWord >>= fun origin => session >>= fun s =>
      Pure.pure ((Config.Object.blank variant scope origin).withMemory s.settings.memory))
    exact drawn.bind fun origin => within_session.bind fun s => .pure _

/-- A lookup loads the object into its slot, if it is not there. -/
theorem within_find (variant : Variant) (scope : Scope) : Within r (find variant scope) := by
  unfold find
  refine within_checkOpen.bind fun _ => (within_ofExcept _).bind fun _ => ?_
  refine within_session.bind fun s => ?_
  split
  · exact .pure _
  · refine (Within.step fun d => looking.touched d scope _).bind fun _ => ?_
    refine (looking.within_loadObject variant scope).bind fun o => ?_
    exact .step fun d => looking.adopted d scope variant o

end Looking

end SessionM

namespace Device

/-- The device with another schedule. -/
def setSchedule (d : Device) (schedule : Schedule) : Device :=
  { d with session := { d.session with schedule } }

end Device

/-! ### Flushes -/

/-- The session over a network with another schedule. -/
def Online.setSchedule (online : Online σ) (schedule : Schedule) : Online σ :=
  { online with device := online.device.setSchedule schedule }

/-- How the background loop changes the schedule. -/
inductive LoopTurn : Schedule → Schedule → Prop
  | start (s : Schedule) : LoopTurn s s.start
  | stop (s : Schedule) : LoopTurn s s.stop
  | rouse (s : Schedule) (debounce now : Nat) : LoopTurn s (s.rouse debounce now)
  | take (s : Schedule) : LoopTurn s s.take.2.start

namespace OnlineM

section Outcomes

variable {α : Type} {online online' : Online σ} {x : α} {error : Error}

/-- What a session gives, it gives over its network. -/
theorem onDevice_of_ok {action : SessionM α} {d : Device}
    (ran : action online.device = .ok x d) :
    onDevice action online = .ok x { online with device := d } := by
  unfold onDevice
  rw [ran]

/-- How a session fails, it fails over its network. -/
theorem onDevice_of_error {action : SessionM α} {d : Device}
    (failed : action online.device = .error error d) :
    onDevice action online = .error error { online with device := d } := by
  unfold onDevice
  rw [failed]

/-- The result of an action whose error is kept. -/
theorem attempt_of_ok {action : OnlineM σ α} (ran : action online = .ok x online') :
    attempt action online = .ok (.ok x) online' := by
  unfold attempt
  rw [ran]

/-- The error that is kept. -/
theorem attempt_of_error {action : OnlineM σ α} (failed : action online = .error error online') :
    attempt action online = .ok (.error error) online' := by
  unfold attempt
  rw [failed]

/-- An action of which the result is not asked for. -/
theorem discard_of_ok {action : OnlineM σ α} (ran : action online = .ok x online') :
    (discard action : OnlineM σ Unit) online = .ok () online' := by
  change EStateM.map _ action online = _
  rw [EStateM.map, ran]

end Outcomes

/-- **What the loop does in one step**: nothing; it ends with the session; it is roused; or it takes
the queue and flushes what was in it. -/
theorem loopStep_cases (carrier : Carrier σ) (time : Nat) (online : Online σ) :
    let d := online.device
    let s := d.session.schedule
    let left := stateAfter (loopStep carrier time) online
    left = online ∨
    (d.session.closed = true ∧ left = online.setSchedule s.stop) ∨
    (d.session.closed = false ∧
      left = online.setSchedule (s.rouse d.session.settings.debounce time)) ∨
    (d.session.closed = false ∧ s.isDue time = true ∧ s.take.1 = [] ∧
      left = online.setSchedule s.take.2.start) ∨
    (d.session.closed = false ∧ s.isDue time = true ∧ s.take.1 ≠ [] ∧
      left = stateAfter (flush carrier s.take.1) (online.setSchedule s.take.2.start)) := by
  intro d s left
  have looks : (get : OnlineM σ (Online σ)) online = .ok online online := rfl
  have sets (f : Schedule → Schedule) : onDevice (SessionM.modifySchedule f) online =
      .ok ⟨⟩ (online.setSchedule (f s)) := rfl
  dsimp only [left]
  unfold loopStep
  rw [stateAfter_bind_of_ok looks]
  dsimp only
  split
  · exact .inl rfl
  · exact .inl rfl
  · -- the loop is there and does not wait: the session may have ended, or there is something to do
    split
    · next closed => exact .inr (.inl ⟨closed, stateAfter_bind_of_ok (sets _)⟩)
    · next isOpen =>
      have isOpen := Bool.eq_false_iff.mpr isOpen
      split
      · exact .inr (.inr (.inl ⟨isOpen, stateAfter_bind_of_ok (sets _)⟩))
      · split
        · next due =>
          rw [stateAfter_bind_of_ok (sets _)]
          cases batch : s.take.1 with
          | nil => exact .inr (.inr (.inr (.inl ⟨isOpen, due, rfl, rfl⟩)))
          | cons first rest =>
            refine .inr (.inr (.inr (.inr ⟨isOpen, due, nofun, ?_⟩)))
            -- what the flush gives is not looked at
            have left (online : Online σ) :
                stateAfter (discard (flush carrier (first :: rest)) >>= fun _ =>
                  (pure true : OnlineM σ Bool)) online =
                stateAfter (flush carrier (first :: rest)) online :=
              (stateAfter_bind_pure _ _ _).trans (stateAfter_bind_pure _ (fun _ => ()) _)
            exact left _
        · exact .inl rfl

/-- The session is led on by a relation, whatever becomes of the network. -/
def Leads (r : Device → Device → Prop) (online online' : Online σ) : Prop :=
  r online.device online'.device

variable {r : Device → Device → Prop}

/-- Steps of the session are steps of the session over its network. -/
theorem leads_of_steps {online : Online σ} {d : Device}
    (steps : Relation.ReflTransGen r online.device d) :
    Relation.ReflTransGen (Leads r) online { online with device := d } := by
  induction steps with
  | refl => exact .refl
  | tail past step ih => exact ih.tail step

/-- What a session does, it does over its network. -/
theorem within_onDevice {action : SessionM α} (within : Within r action) :
    Within (Leads r) (onDevice action : OnlineM σ α) := by
  intro online
  have same : stateAfter (onDevice action) online =
      { online with device := stateAfter action online.device } := by
    unfold stateAfter onDevice
    cases action online.device <;> rfl
  rw [same]
  exact leads_of_steps (within online.device)

/-- An action whose error is kept, over the network. -/
theorem within_attempt {r : Online σ → Online σ → Prop} {action : OnlineM σ α}
    (within : Within r action) : Within r (attempt action) := by
  intro online
  have steps := within online
  unfold stateAfter attempt
  unfold stateAfter at steps
  cases ran : action online <;>
    · rw [ran] at steps
      exact steps

section Flush

variable {carrier : Carrier σ}
  (carries : ∀ destination push, Within (Leads r) (carrier destination push))
  (confirms : ∀ variant scope seqno hash, Within r (SessionM.confirm variant scope seqno hash))
  (sends : ∀ destination, Within r (SessionM.pendingPushes destination))
  (stores : Within r SessionM.persistAll)

include carries confirms

/-- One push is a call of the network, a check and an acknowledgement. -/
theorem within_sendPush (destination : Destination) (push : PendingPush) :
    Within (Leads r) (sendPush carrier destination push) := by
  unfold sendPush
  refine (carries destination push).bind fun hash => ?_
  refine (within_onDevice SessionM.within_checkOpen).bind fun _ => ?_
  exact (within_onDevice (confirms _ _ _ _)).bind fun _ => .pure _

/-- Pushes are sent one after the other. -/
theorem within_sendPushes (destination : Destination) (report : FlushReport)
    (pushes : List PendingPush) :
    Within (Leads r) (sendPushes carrier destination report pushes) := by
  induction pushes generalizing report with
  | nil => exact .pure _
  | cons push rest ih =>
    unfold sendPushes
    have sent := within_attempt (within_sendPush carries confirms destination push)
    refine sent.bind fun outcome => ?_
    -- the error of a closed session ends it, another is counted
    split
    · exact ih _
    · exact .pure _
    · exact ih _

include sends

/-- So are those of several destinations. -/
theorem within_sendAll (report : FlushReport) (destinations : List Destination) :
    Within (Leads r) (sendAll carrier report destinations) := by
  induction destinations generalizing report with
  | nil => exact .pure _
  | cons destination rest ih =>
    unfold sendAll
    refine (within_attempt (within_onDevice (sends destination))).bind fun outcome => ?_
    -- a closed session ends the flush, another error only this destination
    split
    · exact .pure _
    · exact ih _
    · refine (within_sendPushes carries confirms destination report _).bind fun (report, goOn) => ?_
      cases goOn
      · exact .pure _
      · exact ih _

include stores

/-- **A flush** stores objects, builds pushes and takes note of acknowledgements, and the network
does what it does. -/
theorem within_flush (destinations : List Destination) :
    Within (Leads r) (flush carrier destinations) := by
  unfold flush
  refine Within.bind ?_ fun _ => within_sendAll carries confirms sends {} destinations
  exact (within_attempt (within_onDevice stores)).bind fun _ => .pure _

variable (turns : ∀ {d : Device} {schedule}, LoopTurn d.session.schedule schedule →
  r d (d.setSchedule schedule))

include turns

/-- A step of the background loop is a turn of the loop, or one and then a flush. -/
theorem within_loopStep (time : Nat) : Within (Leads r) (loopStep carrier time) := by
  intro online
  have turned {schedule : Schedule} (turn : LoopTurn online.device.session.schedule schedule) :
      Relation.ReflTransGen (Leads r) online (online.setSchedule schedule) :=
    .single (turns turn)
  rcases loopStep_cases carrier time online with same | ⟨-, stopped⟩ | ⟨-, roused⟩ |
    ⟨-, -, -, took⟩ | ⟨-, -, -, flushed⟩
  · rw [same]
  · rw [stopped]
    exact turned (.stop _)
  · rw [roused]
    exact turned (.rouse _ _ _)
  · rw [took]
    exact turned (.take _)
  · rw [flushed]
    exact (turned (.take _)).trans (within_flush carries confirms sends stores _ _)

/-- Any number of steps of the loop at one time. -/
theorem within_settle (time steps : Nat) : Within (Leads r) (settle carrier time steps) := by
  induction steps with
  | zero => exact .pure _
  | succ steps ih =>
    unfold settle
    refine (within_loopStep carries confirms sends stores turns time).bind fun stepped => ?_
    cases stepped
    · exact .pure _
    · exact ih

/-- **Letting time pass while the loop runs.** -/
theorem within_pass (time stop : Nat) : Within (Leads r) (pass carrier time stop) := by
  fun_induction pass carrier time stop with
  | case1 time ih =>
    -- when all is done for now, time goes on to what the loop waits for next, if there is such a
    -- time
    refine (within_settle carries confirms sends stores turns time mostSteps).bind fun _ => ?_
    refine (Within.look (f := id) fun _ => rfl).bind fun online => ?_
    split
    · split
      · next later => exact ih _ later
      · exact .pure _
    · exact .pure _

end Flush

end OnlineM

end ConfigReplica
