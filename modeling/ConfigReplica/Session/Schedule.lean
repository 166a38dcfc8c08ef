import ConfigReplica.Scope
import Std.Data.ExtTreeSet

/-!
# The schedule of pushes

Destinations with something to push are put into a queue, and a background loop empties it. The loop
waits for a signal, sleeps for a while so that what comes shortly after is pushed together, takes the
whole queue, and pushes. A signal that is given while the loop does not wait is kept, one at most, and
ends the next wait at once; so a queue that is not empty never lies unnoticed.

The three steps of a round are `Schedule.rouse`, which ends a wait, `Schedule.rise`, which ends a
sleep, and `Schedule.take`, which empties the queue.
-/

namespace ConfigReplica

/-- What the background loop is doing. -/
inductive LoopPhase where
  /-- There is no loop. -/
  | absent
  /-- It is between two waits. -/
  | busy
  /-- It waits for a signal. -/
  | waiting
  /-- It was given a signal while it waited. -/
  | roused
  /-- It sleeps until a time. -/
  | sleeping (deadline : Nat)
  /-- It ended with the session. -/
  | ended
  deriving DecidableEq, Repr

/-- The queue of destinations, the signal that is kept, and the loop. -/
structure Schedule where
  queue : Std.ExtTreeSet Destination := ∅
  /-- A signal was given while the loop did not wait. -/
  signalled : Bool := false
  phase : LoopPhase := .absent

namespace Schedule

/-- Puts a destination into the queue. -/
def insert (s : Schedule) (destination : Destination) : Schedule :=
  { s with queue := s.queue.insert destination }

/-- Gives a signal. -/
def signal (s : Schedule) : Schedule :=
  if s.phase = .waiting then { s with phase := .roused } else { s with signalled := true }

/-- Takes a destination out of the queue. -/
def erase (s : Schedule) (destination : Destination) : Schedule :=
  { s with queue := s.queue.erase destination }

/-- Starts the loop. -/
def start (s : Schedule) : Schedule :=
  { s with phase := .busy }

/-- Ends the loop. -/
def stop (s : Schedule) : Schedule :=
  { s with phase := .ended }

/-- The loop comes to its wait at a time: a kept signal is used up and the loop goes to sleep, and
otherwise it waits. A loop that was given a signal goes to sleep. -/
def rouse (s : Schedule) (debounce now : Nat) : Schedule :=
  match s.phase with
  | .busy =>
    if s.signalled then { s with signalled := false, phase := .sleeping (now + debounce) }
    else { s with phase := .waiting }
  | .roused => { s with phase := .sleeping (now + debounce) }
  | _ => s

/-- Empties the queue. Gives what was in it. -/
def take (s : Schedule) : List Destination × Schedule :=
  (s.queue.toList, { s with queue := ∅ })

/-- Whether the loop sleeps and has slept long enough at a time. -/
def isDue (s : Schedule) (now : Nat) : Bool :=
  match s.phase with
  | .sleeping deadline => deadline ≤ now
  | _ => false

end Schedule

end ConfigReplica
