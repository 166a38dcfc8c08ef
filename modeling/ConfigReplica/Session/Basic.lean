import ConfigReplica.Config.Object
import ConfigReplica.Retention
import ConfigReplica.Seal.Envelope
import ConfigReplica.Session.Schedule
import ConfigReplica.Store

/-!
# Sessions

A session holds the objects of one account in memory while they are used. Every object that it ever
loaded or made has a number, its handle; at most one handle at a time is in the slot of a scope and
variant. A handle stays good after its object has left the slot, for those who still have it.

A session works on a device: with a store, a clock and a source of random values, which outlive it.
An action of a session keeps what it changed before it failed.
-/

namespace ConfigReplica

/-- What a session can be tuned by. -/
structure Settings where
  /-- How many milliseconds the loop sleeps before it pushes. -/
  debounce : Nat := 1000
  /-- How many merged updates an object remembers. -/
  memory : Nat := Config.defaultMemory
  /-- For how many milliseconds updates of a removed group are refused. -/
  retention : Nat := twoWeeks
  deriving DecidableEq, Repr

/-- What a listener is told: which object was changed by updates, and the time of the message. -/
structure Notice where
  variant : Variant
  scope : Scope
  time : Int64
  deriving DecidableEq, Repr

/-- When each removed group was removed. -/
abbrev RemovalMarks := Std.ExtTreeMap GroupId Int64

/-- The greatest times accepted for the keys of a variant. -/
abbrev Watermarks := Dict Int64

/-- Number of an object in a session. -/
abbrev Handle := Nat

/-- The session of an account. -/
structure Session where
  ring : Seal.Keyring
  settings : Settings := {}
  /-- Every object of the session, by handle. -/
  objects : Array Config.Object := #[]
  /-- The handles in use, for each scope that was looked at. -/
  slots : Std.ExtTreeMap Scope (Std.ExtTreeMap Variant Handle) := ∅
  /-- The removal marks, once they were read. -/
  removed : Option RemovalMarks := none
  /-- The watermarks of the variants for which they were read. -/
  watermarks : Std.ExtTreeMap Variant Watermarks := ∅
  /-- What the listener was told, the latest first, if there is a listener. -/
  notices : Option (List Notice) := none
  schedule : Schedule := {}
  closed : Bool := false

namespace Session

/-- What a number stands for that is no handle: an object that takes nothing. -/
def noObject : Config.Object :=
  { variant := .userProfile, scope := .account, origin := 0, destroyed := true }

/-- The object of a handle. -/
def object (s : Session) (handle : Handle) : Config.Object :=
  s.objects[handle]?.getD noObject

/-- The session with another object under a handle. -/
def setObject (s : Session) (handle : Handle) (o : Config.Object) : Session :=
  { s with objects := s.objects.setIfInBounds handle o }

/-- The handles of a scope. -/
def slot (s : Session) (scope : Scope) : Std.ExtTreeMap Variant Handle :=
  s.slots.getD scope ∅

/-- All handles in use, the account's first. -/
def handles (s : Session) : List Handle :=
  s.slots.toList.flatMap fun (_, slot) => slot.toList.map Prod.snd

/-- Where the updates of a scope are pushed. -/
def destinationOf (s : Session) : Scope → Destination
  | .account => .contact s.ring.user
  | .group id => .closedGroup id

end Session

/-- A session at work. -/
structure Device where
  session : Session
  store : Store
  entropy : Entropy
  clock : Int64

/-- An action of a session. -/
abbrev SessionM := EStateM Error Device

namespace SessionM

variable {α : Type}

/-- An outcome as an action. -/
def ofExcept (outcome : Except Error α) : SessionM α := fun d =>
  match outcome with
  | .ok x => .ok x d
  | .error error => .error error d

/-- Runs an action and keeps its error as a result. -/
def attempt (action : SessionM α) : SessionM (Except Error α) := fun d =>
  match action d with
  | .ok x d => .ok (.ok x) d
  | .error error d => .ok (.error error) d

/-- Acts on the store alone. -/
def onStore (action : StoreM α) : SessionM α := fun d =>
  match action d.store with
  | .ok x store => .ok x { d with store }
  | .error error store => .error error { d with store }

/-- The session. -/
def session : SessionM Session := do
  pure (← get).session

/-- Changes the session. -/
def modifySession (f : Session → Session) : SessionM Unit :=
  modify fun d => { d with session := f d.session }

/-- Changes the schedule. -/
def modifySchedule (f : Schedule → Schedule) : SessionM Unit :=
  modifySession fun s => { s with schedule := f s.schedule }

/-- The time. -/
def now : SessionM Int64 := do
  pure (← get).clock

/-- The object of a handle. -/
def object (handle : Handle) : SessionM Config.Object := do
  pure ((← session).object handle)

/-- Puts an object under a handle. -/
def setObject (handle : Handle) (o : Config.Object) : SessionM Unit :=
  modifySession fun s => s.setObject handle o

/-- Draws a random word. -/
def drawWord : SessionM UInt64 := fun d =>
  let (word, entropy) := d.entropy.word
  .ok word { d with entropy }

/-- Refuses to go on once the session is closed. -/
def checkOpen : SessionM Unit := do
  if (← session).closed then throw .sessionClosed

/-! ### Messages -/

/-- Seals a message for an account, or for a group where there is one. -/
def wrap (message : Bytes) (domain : String) (recipient : Identity) (group : Option GroupId) :
    SessionM Bytes := fun d =>
  let (envelope, entropy) := d.session.ring.wrap d.entropy message domain recipient group
  .ok envelope { d with entropy }

/-- Begins to listen. -/
def listen : SessionM Unit :=
  modifySession fun s => { s with notices := some [] }

/-- Tells the listener, if there is one. -/
def notify (notice : Notice) : SessionM Unit :=
  modifySession fun s => { s with notices := s.notices.map (notice :: ·) }

/-! ### Scheduling -/

/-- Schedules a push to a destination, unless the session is closed. -/
def schedulePush (destination : Destination) : SessionM Unit := do
  if !(← session).closed then
    modifySchedule fun s => (s.insert destination).signal

end SessionM

end ConfigReplica
