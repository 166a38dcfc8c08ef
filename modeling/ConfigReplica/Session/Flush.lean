import ConfigReplica.Session.Push

/-!
# Flushes

A flush sends what is pending for a set of destinations. Objects that could not be stored before are
stored first. Each push is handed to the network and acknowledged; one that fails stays pending, and
the flush goes on with the next, unless the session was closed meanwhile.

The network is anything that takes a push and gives its hash or an error. It may act on the session
while it works, and may have a state of its own.
-/

namespace ConfigReplica

/-- What became of a flush. -/
structure FlushReport where
  /-- Pushes that were sent and acknowledged. -/
  pushed : Nat := 0
  /-- Pushes that failed and stay pending. -/
  failed : Nat := 0
  deriving DecidableEq, Repr

/-- A session at work over a network. -/
structure Online (σ : Type) where
  device : Device
  network : σ

/-- An action of a session over a network. -/
abbrev OnlineM (σ : Type) := EStateM Error (Online σ)

/-- Sends a push to a destination and gives the hash under which it is held. -/
abbrev Carrier (σ : Type) := Destination → PendingPush → OnlineM σ String

namespace OnlineM

variable {σ α : Type}

/-- Acts on the session alone. -/
def onDevice (action : SessionM α) : OnlineM σ α := fun online =>
  match action online.device with
  | .ok x device => .ok x { online with device }
  | .error error device => .error error { online with device }

/-- Runs an action and keeps its error as a result. -/
def attempt (action : OnlineM σ α) : OnlineM σ (Except Error α) := fun online =>
  match action online with
  | .ok x online => .ok (.ok x) online
  | .error error online => .ok (.error error) online

/-- Sends one push and takes note of its hash. -/
def sendPush (carrier : Carrier σ) (destination : Destination) (push : PendingPush) :
    OnlineM σ Unit := do
  let hash ← carrier destination push
  onDevice SessionM.checkOpen
  discard (onDevice (SessionM.confirm push.variant push.scope push.seqno hash))

/-- Sends pushes one after the other. Gives what became of them, and whether to go on. -/
def sendPushes (carrier : Carrier σ) (destination : Destination) (report : FlushReport) :
    List PendingPush → OnlineM σ (FlushReport × Bool)
  | [] => pure (report, true)
  | push :: rest => do
    match ← attempt (sendPush carrier destination push) with
    | .ok () =>
      sendPushes carrier destination { report with pushed := report.pushed + 1 } rest
    | .error .sessionClosed => pure (report, false)
    | .error _ =>
      sendPushes carrier destination { report with failed := report.failed + 1 } rest

/-- Sends what is pending for each destination. -/
def sendAll (carrier : Carrier σ) (report : FlushReport) :
    List Destination → OnlineM σ FlushReport
  | [] => pure report
  | destination :: rest => do
    match ← attempt (onDevice (SessionM.pendingPushes destination)) with
    | .error .sessionClosed => pure report
    | .error _ => sendAll carrier report rest
    | .ok pushes =>
      let (report, goOn) ← sendPushes carrier destination report pushes
      if goOn then sendAll carrier report rest else pure report

/-- Stores what could not be stored before, and sends what is pending for the destinations. -/
def flush (carrier : Carrier σ) (destinations : List Destination) : OnlineM σ FlushReport := do
  discard (attempt (onDevice SessionM.persistAll))
  sendAll carrier {} destinations

/-! ### The background loop -/

/-- The loop's next step at a time, if it can take one. Gives whether it took one. -/
def loopStep (carrier : Carrier σ) (time : Nat) : OnlineM σ Bool := do
  let s := (← get).device.session
  match s.schedule.phase with
  | .absent | .ended => pure false
  | phase =>
    if s.closed then
      onDevice (SessionM.modifySchedule Schedule.stop)
      pure true
    else if phase = .busy ∨ phase = .roused then
      onDevice (SessionM.modifySchedule fun q => q.rouse s.settings.debounce time)
      pure true
    else if s.schedule.isDue time then
      let (batch, rest) := s.schedule.take
      onDevice (SessionM.modifySchedule fun _ => rest.start)
      if !batch.isEmpty then discard (flush carrier batch)
      pure true
    else pure false

/-- Lets the loop run at a time until it waits or sleeps, for so many steps at most. -/
def settle (carrier : Carrier σ) (time : Nat) : (steps : Nat) → OnlineM σ Unit
  | 0 => pure ()
  | steps + 1 => do
    if ← loopStep carrier time then settle carrier time steps

/-- The most steps that the loop takes at one time. A network that gives no signals leaves it fewer
than eight: a round has three, and one signal is kept at most. -/
def mostSteps : Nat := 64

/-- Lets time pass while the loop runs. At the end of that time the loop has not run yet. -/
def pass (carrier : Carrier σ) (time stop : Nat) : OnlineM σ Unit := do
  settle carrier time mostSteps
  match (← get).device.session.schedule.phase with
  | .sleeping deadline =>
    if time < deadline ∧ deadline < stop then pass carrier deadline stop
  | _ => pure ()
termination_by stop - time

end OnlineM

end ConfigReplica
