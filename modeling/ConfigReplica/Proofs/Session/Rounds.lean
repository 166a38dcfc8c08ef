import ConfigReplica.Proofs.Session.Scheduling

/-!
# Rounds of the background loop

Many producers schedule pushes while one loop sends them. A producer does two things, one
after the other: it puts a destination into the queue, and gives a signal. The loop comes
to its wait, is roused by a signal, sleeps for a while, takes the whole queue, flushes what
it took, and comes to its wait again. Anything may happen in between.

Here the turns of all of them are interleaved in every way (`Traffic.Step`, `Traffic.Run`),
while the session is open. Two things are kept track of beside the schedule itself: how
many producers are between their two steps, and which batch is being flushed.

* What every turn keeps is `Traffic.Sound`. Its heart is that a queue that is not empty has
  been noticed: a signal is kept, or the loop is already on its way to take it.
* Where destinations go is one equation that every turn obeys (`Traffic.Step.balance`): a
  destination that is put into the queue anew is later taken, or dropped with its group,
  or still there.

Main statement: `Traffic.scheduled_until_taken`. The operations of a session and the steps
of the loop are turns of this kind (`Traffic.produces_of_operation`,
`Traffic.turns_of_loopStep`).
-/

namespace ConfigReplica

/-! ### Schedules -/

namespace Schedule

variable (s : Schedule)

/-- A signal is not lost: it is kept, or ends the wait. -/
theorem signal_cases :
    s.signal = { s with phase := .roused } ∧ s.phase = .waiting ∨
      s.signal = { s with signalled := true } ∧ s.phase ≠ .waiting := by
  unfold signal
  split
  · next waiting => exact .inl ⟨rfl, waiting⟩
  · next other => exact .inr ⟨rfl, other⟩

/-- What becomes of a loop that comes to its wait, or was roused. -/
theorem rouse_cases (debounce now : Nat) :
    (s.rouse debounce now = { s with signalled := false, phase := .sleeping (now + debounce) } ∧
      s.phase = .busy ∧ s.signalled = true) ∨
    (s.rouse debounce now = { s with phase := .waiting } ∧ s.phase = .busy ∧
      s.signalled = false) ∨
    (s.rouse debounce now = { s with phase := .sleeping (now + debounce) } ∧
      s.phase = .roused) ∨
    (s.rouse debounce now = s ∧ s.phase ≠ .busy ∧ s.phase ≠ .roused) := by
  unfold rouse
  cases phase : s.phase with
  | busy =>
    cases kept : s.signalled with
    | true => exact .inl ⟨rfl, rfl, rfl⟩
    | false => exact .inr (.inl ⟨rfl, rfl, rfl⟩)
  | roused => exact .inr (.inr (.inl ⟨rfl, rfl⟩))
  | _ => exact .inr (.inr (.inr ⟨rfl, nofun, nofun⟩))

/-- A loop that is due sleeps. -/
theorem sleeping_of_isDue {s : Schedule} {now : Nat} (due : s.isDue now = true) :
    ∃ deadline, s.phase = .sleeping deadline ∧ deadline ≤ now := by
  unfold isDue at due
  split at due
  · next deadline phase => exact ⟨deadline, phase, of_decide_eq_true due⟩
  · cases due

end Schedule

/-! ### Turns -/

/-- The schedule, and who is in the middle of something. -/
structure Traffic where
  schedule : Schedule := {}
  /-- How many producers put a destination into the queue and have yet to give their signal. -/
  unsignalled : Nat := 0
  /-- The batch that the loop took and still flushes. -/
  flushing : Option (List Destination) := none

namespace Traffic

/-- A turn of a producer or of the loop. -/
inductive Turn where
  /-- A producer put a destination into the queue, which it was not in if it is fresh. -/
  | inserted (destination : Destination) (fresh : Bool)
  | signalled
  /-- A group was removed, and its destination dropped if it was present. -/
  | removed (group : GroupId) (present : Bool)
  | started
  /-- The loop came to its wait, or was roused. -/
  | roused
  | took (batch : List Destination)
  | flushed
  deriving DecidableEq

/-- **One turn.** A producer gives its signal after it put a destination into the queue, and the
loop comes to its wait only when the flush is over. -/
inductive Step : Traffic → Turn → Traffic → Prop
  | insert (t : Traffic) (destination : Destination) :
      Step t (.inserted destination (destination ∉ t.schedule.queue))
        { t with
          schedule := t.schedule.insert destination
          unsignalled := t.unsignalled + 1 }
  | signal (t : Traffic) (owed : 0 < t.unsignalled) :
      Step t .signalled
        { t with schedule := t.schedule.signal, unsignalled := t.unsignalled - 1 }
  | remove (t : Traffic) (group : GroupId) :
      Step t (.removed group (.closedGroup group ∈ t.schedule.queue))
        { t with schedule := t.schedule.erase (.closedGroup group) }
  | start (t : Traffic) (absent : t.schedule.phase = .absent) :
      Step t .started { t with schedule := t.schedule.start }
  | rouse (t : Traffic) (idle : t.flushing = none) (debounce now : Nat) :
      Step t .roused { t with schedule := t.schedule.rouse debounce now }
  | take (t : Traffic) (now : Nat) (due : t.schedule.isDue now = true) :
      Step t (.took t.schedule.take.1)
        { t with
          schedule := t.schedule.take.2.start
          flushing := if t.schedule.take.1.isEmpty then none else some t.schedule.take.1 }
  | finish (t : Traffic) (batch : List Destination) (busy : t.flushing = some batch) :
      Step t .flushed { t with flushing := none }

/-- **A run** of turns, the latest last. -/
inductive Run : Traffic → List Turn → Traffic → Prop
  | refl (t : Traffic) : Run t [] t
  | next {t t' t'' : Traffic} {turns : List Turn} {turn : Turn} (past : Run t turns t')
      (step : Step t' turn t'') : Run t (turns ++ [turn]) t''

variable {t t' t'' : Traffic} {turn : Turn} {turns : List Turn} {destination : Destination}

theorem Run.trans {more : List Turn} (first : Run t turns t') (second : Run t' more t'') :
    Run t (turns ++ more) t'' := by
  induction second with
  | refl =>
    rw [List.append_nil]
    exact first
  | next past step ih =>
    rw [← List.append_assoc]
    exact ih.next step

/-- A turn is a run. -/
theorem Run.one (step : Step t turn t') : Run t [turn] t' :=
  .next (.refl t) step

/-! ### What every turn keeps -/

/-- **What every turn keeps.** -/
structure Sound (t : Traffic) : Prop where
  /-- While it flushes the loop does nothing else. -/
  busy : t.flushing ≠ none → t.schedule.phase = .busy
  /-- No signal is kept from a loop that waits. -/
  heard : t.schedule.phase = .waiting → t.schedule.signalled = false
  /-- A queue that is not empty has been noticed, unless a producer is about to give its signal: a
  signal is kept, or the loop is on its way. -/
  noticed : t.unsignalled = 0 → (∃ destination, destination ∈ t.schedule.queue) →
    t.schedule.signalled = true ∨ t.schedule.phase = .roused ∨
      ∃ deadline, t.schedule.phase = .sleeping deadline

/-- At the start the queue is empty and no loop is there. -/
theorem sound_empty : Sound {} where
  busy := absurd rfl
  heard waiting := nomatch waiting
  noticed _ := fun ⟨_, mem⟩ => absurd mem Std.ExtTreeSet.not_mem_empty

namespace Sound

/-- A signal is kept for a loop that does something else, and heard by one that waits. -/
theorem signal (sound : t.Sound) (unsignalled : Nat) :
    Sound { t with schedule := t.schedule.signal, unsignalled } := by
  rcases t.schedule.signal_cases with ⟨after, waiting⟩ | ⟨after, other⟩
  · -- the loop waited: it is roused, and with that on its way
    refine ⟨fun flushing => ?_, fun waits => ?_, fun _ _ => .inr (.inl ?_)⟩
    · have busy := sound.busy flushing
      rw [waiting] at busy
      cases busy
    · rw [after] at waits
      cases waits
    · rw [after]
  · -- the loop did something else: the signal is kept
    refine ⟨fun flushing => ?_, fun waits => ?_, fun _ _ => .inl ?_⟩
    · rw [after]
      exact sound.busy flushing
    · rw [after] at waits
      exact absurd waits other
    · rw [after]

/-- A loop that is not on its way has a signal kept for it, where there is anything to notice. -/
theorem kept (sound : t.Sound) (settled : t.unsignalled = 0)
    (queued : ∃ destination, destination ∈ t.schedule.queue)
    (notRoused : t.schedule.phase ≠ .roused)
    (awake : ∀ deadline, t.schedule.phase ≠ .sleeping deadline) : t.schedule.signalled = true := by
  rcases sound.noticed settled queued with kept | roused | ⟨deadline, sleeping⟩
  · exact kept
  · exact absurd roused notRoused
  · exact absurd sleeping (awake deadline)

/-- A loop that starts comes to its wait, where it finds the signal that was kept for it. -/
theorem start (sound : t.Sound) (absent : t.schedule.phase = .absent) :
    Sound { t with schedule := t.schedule.start } where
  busy _ := rfl
  heard waits := nomatch waits
  noticed settled queued := .inl (sound.kept settled queued (by simp [absent]) (by simp [absent]))

/-- A loop that comes to its wait or was roused. -/
theorem rouse (sound : t.Sound) (idle : t.flushing = none) (debounce now : Nat) :
    Sound { t with schedule := t.schedule.rouse debounce now } := by
  have free {phase : LoopPhase} : t.flushing ≠ none → phase = .busy :=
    fun flushing => absurd idle flushing
  rcases t.schedule.rouse_cases debounce now with ⟨after, -, -⟩ | ⟨after, busy, unkept⟩ |
    ⟨after, roused⟩ | ⟨after, -, -⟩
  · -- a signal was kept, so it goes to sleep
    refine ⟨free, fun waits => ?_, fun _ _ => .inr (.inr ⟨now + debounce, ?_⟩)⟩
    · rw [after]
    · rw [after]
  · -- no signal was kept, so there was nothing to notice
    refine ⟨free, fun _ => ?_, fun settled queued => ?_⟩
    · rw [after]
      exact unkept
    · rw [Schedule.queue_rouse] at queued
      have kept := sound.kept settled queued (by simp [busy]) (by simp [busy])
      rw [unkept] at kept
      cases kept
  · -- it was roused, so it goes to sleep
    refine ⟨free, fun waits => ?_, fun _ _ => .inr (.inr ⟨now + debounce, ?_⟩)⟩
    · rw [after] at waits
      cases waits
    · rw [after]
  · -- it sleeps or has ended, and stays as it is
    rw [after]
    exact ⟨sound.busy, sound.heard, sound.noticed⟩

end Sound

/-- **Every turn keeps it.** -/
theorem Step.sound (step : Step t turn t') (sound : t.Sound) : t'.Sound := by
  cases step with
  | insert destination =>
    -- the producer owes its signal now, so nothing need be noticed
    exact ⟨sound.busy, sound.heard, fun settled => nomatch settled⟩
  | signal owed => exact sound.signal _
  | remove group =>
    refine ⟨sound.busy, sound.heard, fun settled => ?_⟩
    rintro ⟨destination, mem⟩
    exact sound.noticed settled ⟨destination, ((Schedule.mem_erase _ _ _).mp mem).2⟩
  | start absent => exact sound.start absent
  | rouse idle debounce now => exact sound.rouse idle debounce now
  -- the queue is empty now, and the loop is busy
  | take now due =>
    refine ⟨fun _ => rfl, (fun waits => nomatch waits), fun _ => ?_⟩
    rintro ⟨destination, mem⟩
    exact absurd mem Std.ExtTreeSet.not_mem_empty
  | finish batch busy =>
    exact ⟨fun flushing => absurd rfl flushing, sound.heard, sound.noticed⟩

/-- What every turn keeps, every run keeps. -/
theorem Run.sound (run : Run t turns t') (sound : t.Sound) : t'.Sound := by
  induction run with
  | refl => exact sound
  | next past step ih => exact step.sound ih

/-! ### Where destinations go -/

/-- Whether a destination is in the queue. -/
def holds (t : Traffic) (destination : Destination) : Bool :=
  destination ∈ t.schedule.queue

namespace Turn

/-- Whether a turn puts a destination into the queue that was not in it. -/
def adds (destination : Destination) : Turn → Bool
  | .inserted other fresh => other = destination && fresh
  | _ => false

/-- Whether a turn takes a batch with a destination. -/
def takes (destination : Destination) : Turn → Bool
  | .took batch => destination ∈ batch
  | _ => false

/-- Whether a turn drops a destination with its group. -/
def drops (destination : Destination) : Turn → Bool
  | .removed group present => .closedGroup group = destination && present
  | _ => false

end Turn

/-- **The balance of one turn**: what is there and what comes is what goes and what is left. -/
theorem Step.balance (step : Step t turn t') (destination : Destination) :
    (t.holds destination).toNat + (turn.adds destination).toNat =
      (turn.takes destination).toNat + (turn.drops destination).toNat +
        (t'.holds destination).toNat := by
  cases step with
  | insert other =>
    -- it is added only if it was not there, and then it is there
    by_cases same : other = destination
    · subst same
      by_cases mem : other ∈ t.schedule.queue
      · simp [holds, Turn.adds, Turn.takes, Turn.drops, mem]
      · simp [holds, Turn.adds, Turn.takes, Turn.drops, mem]
    · simp [holds, Turn.adds, Turn.takes, Turn.drops, same, Ne.symm same]
  | remove group =>
    -- it is dropped only if it was there
    by_cases same : .closedGroup group = destination
    · subst same
      by_cases mem : .closedGroup group ∈ t.schedule.queue
      · simp [holds, Turn.adds, Turn.takes, Turn.drops, mem]
      · simp [holds, Turn.adds, Turn.takes, Turn.drops, mem]
    · simp [holds, Turn.adds, Turn.takes, Turn.drops, same, Ne.symm same]
  | take now due =>
    -- all that is there is taken, and nothing is left
    have gone : destination ∉ t.schedule.take.2.start.queue := Std.ExtTreeSet.not_mem_empty
    simp [holds, Turn.adds, Turn.takes, Turn.drops, gone, Schedule.mem_take]
  | signal owed => simp [holds, Turn.adds, Turn.takes, Turn.drops]
  | rouse idle debounce now => simp [holds, Turn.adds, Turn.takes, Turn.drops]
  | start absent =>
    simp only [holds, Turn.adds, Turn.takes, Turn.drops, Bool.toNat_false, Nat.zero_add]
    rfl
  | finish batch busy => simp [holds, Turn.adds, Turn.takes, Turn.drops]

/-- **The balance of a run.** -/
theorem Run.balance (run : Run t turns t') (destination : Destination) :
    (t.holds destination).toNat + turns.countP (·.adds destination) =
      turns.countP (·.takes destination) + turns.countP (·.drops destination) +
        (t'.holds destination).toNat := by
  induction run with
  | refl => simp
  -- the balance of the run so far and that of the last turn add up
  | @next t' t'' turns turn past step ih =>
    have last := step.balance destination
    have counted (p : Turn → Bool) :
        (turns ++ [turn]).countP p = turns.countP p + (p turn).toNat := by
      rw [List.countP_append]
      cases found : p turn <;> simp [found]
    rw [counted, counted, counted]
    omega

/-! ### Flushes and rounds -/

/-- A batch stays what it is until it is flushed, and no other is taken before. -/
theorem Run.flushing (run : Run t turns t') (sound : t.Sound) {batch : List Destination}
    (busy : t.flushing = some batch) (unfinished : .flushed ∉ turns) :
    t'.flushing = some batch ∧ ∀ other, .took other ∉ turns := by
  induction run with
  | refl => exact ⟨busy, fun _ => List.not_mem_nil⟩
  | @next t' t'' turns turn past step ih =>
    have before : .flushed ∉ turns := fun mem => unfinished (List.mem_append_left _ mem)
    obtain ⟨still, untaken⟩ := ih before
    have alone {kept : Option (List Destination)} (same : kept = some batch)
        (other : ∀ batch, turn ≠ .took batch) :
        kept = some batch ∧ ∀ other, .took other ∉ turns ++ [turn] := by
      refine ⟨same, fun taken mem => ?_⟩
      rcases List.mem_append.mp mem with mem | last
      · exact untaken taken mem
      · exact other taken (List.mem_singleton.mp last).symm
    cases step with
    | insert destination => exact alone still fun _ => nofun
    | signal owed => exact alone still fun _ => nofun
    | remove group => exact alone still fun _ => nofun
    | start absent => exact alone still fun _ => nofun
    -- a loop that flushes does not come to its wait
    | rouse idle debounce now =>
      rw [idle] at still
      cases still
    | take now due =>
      -- a loop that flushes does not sleep
      have phase := (past.sound sound).busy (by rw [still]; exact nofun)
      obtain ⟨deadline, sleeping, -⟩ := Schedule.sleeping_of_isDue due
      rw [phase] at sleeping
      cases sleeping
    -- the flush was not over
    | finish batch busy =>
      exact absurd (List.mem_append_right _ (List.mem_singleton_self _)) unfinished

/-- A loop that sleeps takes what is in the queue when it wakes. -/
theorem taken_of_sleeping {deadline : Nat} (sleeping : t.schedule.phase = .sleeping deadline)
    (mem : destination ∈ t.schedule.queue) :
    ∃ batch t', destination ∈ batch ∧ Step t (.took batch) t' := by
  have due : t.schedule.isDue deadline = true := by
    unfold Schedule.isDue
    rw [sleeping]
    exact decide_eq_true (Nat.le_refl _)
  exact ⟨_, _, (Schedule.mem_take _ _).mpr mem, .take t deadline due⟩

/-- **What was noticed is taken next**, when the loop is left to itself. -/
theorem Sound.taken_next (sound : t.Sound) (settled : t.unsignalled = 0) (idle : t.flushing = none)
    (present : t.schedule.phase ≠ .absent) (running : t.schedule.phase ≠ .ended)
    (mem : destination ∈ t.schedule.queue) :
    ∃ batch t', destination ∈ batch ∧
      (Run t [.took batch] t' ∨ Run t [.roused, .took batch] t') := by
  -- a loop that is roused sleeps, and then takes the queue
  have roused (sleeps : (t.schedule.rouse 0 0).phase = .sleeping 0) :
      ∃ batch t', destination ∈ batch ∧
        (Run t [.took batch] t' ∨ Run t [.roused, .took batch] t') := by
    have first : Step t .roused { t with schedule := t.schedule.rouse 0 0 } := .rouse t idle 0 0
    have still : destination ∈ (t.schedule.rouse 0 0).queue := by
      rw [Schedule.queue_rouse]
      exact mem
    obtain ⟨batch, t', within, taken⟩ :=
      taken_of_sleeping (t := { t with schedule := t.schedule.rouse 0 0 }) sleeps still
    exact ⟨batch, t', within, .inr ((Run.one first).next taken)⟩
  cases phase : t.schedule.phase with
  | absent => exact absurd phase present
  | ended => exact absurd phase running
  | sleeping deadline =>
    obtain ⟨batch, t', within, taken⟩ := taken_of_sleeping phase mem
    exact ⟨batch, t', within, .inl (.one taken)⟩
  | roused =>
    apply roused
    rw [Schedule.rouse, phase]
  -- a busy loop finds the signal that was kept when it comes to its wait
  | busy =>
    apply roused
    have kept := sound.kept settled ⟨_, mem⟩ (by simp [phase]) (by simp [phase])
    rw [Schedule.rouse, phase]
    dsimp only
    rw [if_pos kept]
  -- a loop that waits would have heard the signal
  | waiting =>
    have kept := sound.kept settled ⟨_, mem⟩ (by simp [phase]) (by simp [phase])
    rw [sound.heard phase] at kept
    cases kept

/-! ### The turns of a session -/

/-- Whether a turn is one of a producer, or the removal of a group. -/
def Turn.isProducers : Turn → Bool
  | .inserted _ _ | .signalled | .removed _ _ => true
  | _ => false

/-- From one device to another the schedule went by turns of producers and removals, whoever else
was in the middle of something. -/
def Produces (d d' : Device) : Prop :=
  ∀ unsignalled flushing, ∃ turns,
    Run ⟨d.session.schedule, unsignalled, flushing⟩ turns
      ⟨d'.session.schedule, unsignalled, flushing⟩ ∧
    ∀ turn ∈ turns, turn.isProducers = true

theorem Produces.refl (d : Device) : Produces d d :=
  fun _ _ => ⟨[], .refl _, fun _ mem => absurd mem List.not_mem_nil⟩

theorem Produces.trans {d d' d'' : Device} (first : Produces d d') (second : Produces d' d'') :
    Produces d d'' := by
  intro unsignalled flushing
  obtain ⟨turns, run, theirs⟩ := first unsignalled flushing
  obtain ⟨more, goesOn, theirsToo⟩ := second unsignalled flushing
  refine ⟨turns ++ more, run.trans goesOn, fun turn mem => ?_⟩
  rcases List.mem_append.mp mem with mem | mem
  · exact theirs turn mem
  · exact theirsToo turn mem

/-- Any number of steps of which each goes by turns of producers. -/
theorem Produces.of_steps {r : Device → Device → Prop} {d d' : Device}
    (steps : Relation.ReflTransGen r d d') (each : ∀ {d d'}, r d d' → Produces d d') :
    Produces d d' := by
  induction steps with
  | refl => exact .refl d
  | tail past step ih => exact ih.trans (each step)

/-- Scheduling a push is two turns, and removing a group is one. -/
theorem produces_of_stir {deed : Deed} {d d' : Device} (stir : Device.Stir deed d d')
    (keeps : deed ≠ .wipe) : Produces d d' := by
  intro unsignalled flushing
  cases stir with
  | still schedule closed =>
    rw [schedule]
    exact Produces.refl d unsignalled flushing
  -- the destination is put into the queue, and then the signal given
  | pushed isOpen destination =>
    have inserted := Step.insert ⟨d.session.schedule, unsignalled, flushing⟩ destination
    have signalled := Step.signal
      ⟨d.session.schedule.insert destination, unsignalled + 1, flushing⟩ (Nat.succ_pos _)
    refine ⟨_, (Run.one inserted).next signalled, fun turn mem => ?_⟩
    rcases List.mem_append.mp mem with mem | mem
    · rw [List.mem_singleton.mp mem]
      rfl
    · rw [List.mem_singleton.mp mem]
      rfl
  | dropped group =>
    have removed := Step.remove ⟨d.session.schedule, unsignalled, flushing⟩ group
    refine ⟨_, .one removed, fun turn mem => ?_⟩
    rw [List.mem_singleton.mp mem]
    rfl
  | emptied => exact absurd rfl keeps

/-- **Every operation of a session** but wiping comes to turns of producers and removals. -/
theorem produces_of_operation {deed : Deed} {α : Type} {action : SessionM α}
    (operation : Operation deed action) (acts : deed ≠ .look) (keeps : deed ≠ .wipe) (d : Device) :
    Produces d (stateAfter action d) :=
  .of_steps (operation.stirs acts d) fun stir => produces_of_stir stir keeps

/-- So does scheduling a push by hand. -/
theorem produces_of_schedulePush (destination : Destination) (d : Device) :
    Produces d (stateAfter (SessionM.schedulePush destination) d) := by
  have stirs : Within (Device.Stir .work) (SessionM.schedulePush destination) :=
    SessionM.stirs_schedulePush destination
  exact .of_steps (stirs d) fun stir => produces_of_stir stir nofun

section Loop

open OnlineM

variable {σ : Type} {carrier : Carrier σ}

/-- A flush makes turns of producers only, if the network makes no others. -/
theorem produces_of_flush
    (carries : ∀ destination push, Within (Leads Produces) (carrier destination push))
    (batch : List Destination) (online : Online σ) :
    Produces online.device (stateAfter (flush carrier batch) online).device := by
  have operation {deed : Deed} {α : Type} {action : SessionM α} (operation : Operation deed action)
      (acts : deed ≠ .look) (keeps : deed ≠ .wipe) : Within Produces action :=
    .step (produces_of_operation operation acts keeps)
  -- all that a flush does with a session are operations and calls of the network
  have steps := within_flush carries (fun _ _ _ _ => operation (.confirm _ _ _ _) nofun nofun)
    (fun _ => operation (.pendingPushes _) nofun nofun) (operation .persistAll nofun nofun)
    batch online
  generalize stateAfter (flush carrier batch) online = online' at steps
  induction steps with
  | refl => exact .refl _
  | tail past step ih => exact ih.trans step

/-- What the loop does in one step while the session is open, in turns. -/
inductive Round : List Turn → Prop
  | none : Round []
  | roused : Round [.roused]
  | tookNothing : Round [.took []]
  | tookBatch (batch : List Destination) (turns : List Turn)
      (theirs : ∀ turn ∈ turns, turn.isProducers = true) :
      Round (.took batch :: (turns ++ [.flushed]))

/-- **A step of the loop** while the session is open is a round of turns: it is roused, or it takes
a batch and flushes it while producers go on. -/
theorem turns_of_loopStep
    (carries : ∀ destination push, Within (Leads Produces) (carrier destination push))
    {online : Online σ} (isOpen : online.device.session.closed = false) (time unsignalled : Nat) :
    ∃ turns, Round turns ∧ Run ⟨online.device.session.schedule, unsignalled, none⟩ turns
      ⟨(stateAfter (loopStep carrier time) online).device.session.schedule, unsignalled, none⟩ := by
  let q := online.device.session.schedule
  rcases loopStep_cases carrier time online with same | ⟨closed, -⟩ | ⟨-, roused⟩ |
    ⟨-, due, nothing, took⟩ | ⟨-, due, filled, flushed⟩
  · rw [same]
    exact ⟨[], .none, .refl _⟩
  · rw [isOpen] at closed
    cases closed
  · rw [roused]
    exact ⟨[.roused], .roused, .one (.rouse ⟨q, unsignalled, none⟩ rfl _ _)⟩
  · -- it was due and the queue was empty
    have taken := Step.take ⟨q, unsignalled, none⟩ time due
    rw [nothing] at taken
    rw [took]
    exact ⟨[.took []], .tookNothing, .one taken⟩
  · -- the queue is empty before the flush begins
    have taken := Step.take ⟨q, unsignalled, none⟩ time due
    rw [if_neg fun empty => filled (List.isEmpty_iff.mp empty)] at taken
    obtain ⟨turns, run, theirs⟩ := produces_of_flush carries q.take.1
      (online.setSchedule q.take.2.start) unsignalled (some q.take.1)
    rw [flushed]
    generalize stateAfter (flush carrier q.take.1) (online.setSchedule q.take.2.start) = ended
      at run
    have finished := Step.finish ⟨ended.device.session.schedule, unsignalled, some q.take.1⟩ _ rfl
    have round := ((Run.one taken).trans run).next finished
    rw [List.append_assoc] at round
    exact ⟨_, .tookBatch q.take.1 turns theirs, round⟩

end Loop

/-- **A push that was scheduled stays scheduled until it is taken.** However the turns of producers
and of the loop were interleaved so far, and however they go on:

* While the loop is at its wait, or on its way to it, and no producer is between its two steps, a
  queue that is not empty has left a signal; and a loop that is left to itself takes what is in the
  queue next.
* A destination stays in the queue until a batch takes it or its group is removed.
* How often it was put into the queue anew is how often it was taken or dropped, up to whether it
  was and is in the queue. So until it is put into the queue anew it is in one batch at most.
* What is flushed is the batch that was taken before, whatever is put into the queue meanwhile. -/
theorem scheduled_until_taken {past : List Turn} (before : Run {} past t) (run : Run t turns t') :
    ((t.schedule.phase = .busy ∨ t.schedule.phase = .waiting) → t.unsignalled = 0 →
      (∃ destination, destination ∈ t.schedule.queue) → t.schedule.signalled = true) ∧
    (t.schedule.phase ≠ .absent → t.schedule.phase ≠ .ended → t.unsignalled = 0 →
      t.flushing = none → ∀ destination ∈ t.schedule.queue,
        ∃ batch t'', destination ∈ batch ∧
          (Run t [.took batch] t'' ∨ Run t [.roused, .took batch] t'')) ∧
    (∀ destination ∈ t.schedule.queue,
      (∀ turn ∈ turns, turn.takes destination = false ∧ turn.drops destination = false) →
        destination ∈ t'.schedule.queue) ∧
    (∀ destination,
      (t.holds destination).toNat + turns.countP (·.adds destination) =
        turns.countP (·.takes destination) + turns.countP (·.drops destination) +
          (t'.holds destination).toNat ∧
      (turns.countP (·.adds destination) = 0 → turns.countP (·.takes destination) ≤ 1)) ∧
    (∀ batch, t.flushing = some batch → .flushed ∉ turns →
      t'.flushing = some batch ∧ ∀ other, .took other ∉ turns) := by
  have sound : t.Sound := before.sound sound_empty
  refine ⟨fun waits settled queued => ?_, fun present running settled idle destination mem => ?_,
    fun destination mem left => ?_, fun destination => ⟨run.balance destination, fun none => ?_⟩,
    fun batch busy => run.flushing sound busy⟩
  · -- the loop is not on its way in either phase, so it must have been told
    rcases waits with busy | waiting
    · exact sound.kept settled queued (by simp [busy]) (by simp [busy])
    · exact sound.kept settled queued (by simp [waiting]) (by simp [waiting])
  · exact sound.taken_next settled idle present running mem
  · -- it was there, nothing took or dropped it, so it still is
    have balance := run.balance destination
    have untaken : turns.countP (·.takes destination) = 0 :=
      List.countP_eq_zero.mpr fun turn mem => Bool.eq_false_iff.mp (left turn mem).1
    have undropped : turns.countP (·.drops destination) = 0 :=
      List.countP_eq_zero.mpr fun turn mem => Bool.eq_false_iff.mp (left turn mem).2
    have there : t.holds destination = true := decide_eq_true mem
    rw [untaken, undropped, there] at balance
    have still : t'.holds destination = true := by
      cases held : t'.holds destination with
      | true => rfl
      | false =>
        rw [held] at balance
        simp at balance
    exact of_decide_eq_true still
  · -- it can be taken only if it was there before, and then once
    have balance := run.balance destination
    have once : (t.holds destination).toNat ≤ 1 := Bool.toNat_le _
    omega

/-- The destination of an account is scheduled twice before the loop takes it, once. While it is
flushed it is scheduled again: that is for the next batch, for which a signal is kept. -/
theorem scheduled_until_taken_again :
    let home : Destination := .contact ⟨Identity.accountTag, Vector.replicate 32 0x11⟩
    ∃ past turns t t', Run {} past t ∧ Run t turns t' ∧
      past.countP (fun | .inserted _ _ => true | _ => false) = 2 ∧
      past.countP (·.takes home) = 1 ∧ turns.countP (·.adds home) = 1 ∧
      t'.flushing = some [home] ∧ home ∈ t'.schedule.queue ∧ t'.schedule.signalled = true := by
  intro home
  -- at the start: the loop waits, hears of the destination, sleeps, and is told of it again
  have waits := ((Run.refl {}).next (.start _ rfl)).next (.rouse _ rfl 0 0)
  have once := (waits.next (.insert _ home)).next (.signal _ (by decide))
  have twice := ((once.next (.rouse _ rfl 9 0)).next (.insert _ home)).next (.signal _ (by decide))
  have taken := twice.next (.take _ 9 rfl)
  have again (t : Traffic) := (Run.one (.insert t home)).next (.signal _ (Nat.succ_pos _))
  obtain ⟨-, -, -, -, flushing⟩ := scheduled_until_taken taken (again _)
  obtain ⟨kept, -⟩ := scheduled_until_taken (taken.trans (again _)) (.refl _)
  refine ⟨_, _, _, _, taken, again _, by decide +kernel, by decide +kernel, by decide +kernel,
    ?_, ?_, ?_⟩
  · exact (flushing [home] (by decide +kernel) (by decide +kernel)).1
  · decide +kernel
  · exact kept (by decide +kernel) (by decide +kernel) ⟨home, by decide +kernel⟩

end Traffic

end ConfigReplica
