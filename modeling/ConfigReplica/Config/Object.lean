import ConfigReplica.Config.Edit
import ConfigReplica.Config.Frame

/-!
# Configuration objects

An object is a state with the bookkeeping that keeps it in step with other replicas:

- a revision, raised by every local edit that changes the state;
- whether there are local changes that no acknowledged push carried;
- whether it changed since it was last stored;
- the identifiers of the updates that were merged last, so that an update is not merged twice;
- the hashes under which the network holds the last acknowledged push.

An object whose group was removed is destroyed: it takes no more edits and updates.
-/

namespace ConfigReplica.Config

/-- How many identifiers of merged updates are kept unless set otherwise. -/
def defaultMemory : Nat := 256

/-- A configuration object. -/
structure Object where
  variant : Variant
  scope : Scope
  state : State := State.empty
  /-- The replica by which entries of this object are stamped. -/
  origin : UInt64
  /-- The revision. -/
  seqno : UInt64 := 0
  /-- Some local change was not pushed yet. -/
  dirty : Bool := false
  needsDump : Bool := false
  currentHashes : List String := []
  /-- The identifiers of merged updates, the oldest first. -/
  mergedIds : List String := []
  memory : Nat := defaultMemory
  destroyed : Bool := false
  deriving DecidableEq

/-- An update ready to be sent, and the revision that it carries. -/
structure Push where
  seqno : UInt64
  data : Bytes
  deriving DecidableEq

/-- An object after an edit, what was left of the random draws, and how the edit ended. -/
structure Edited (α : Type) where
  object : Object
  entropy : Entropy
  result : Except Error α

namespace Object

variable {α : Type}

/-- The last `count` items of a list. -/
def keepLast (count : Nat) (ids : List String) : List String :=
  ids.drop (ids.length - count)

/-- Sets how many identifiers of merged updates are kept, at least one. -/
def withMemory (o : Object) (memory : Nat) : Object :=
  { o with memory := max memory 1, mergedIds := keepLast (max memory 1) o.mergedIds }

/-! ### Storing -/

/-- What is kept of an object. -/
def dumpFrame (o : Object) : DumpFrame :=
  { version := DumpFrame.currentVersion, variant := o.variant, origin := o.origin, seqno := o.seqno
    dirty := o.dirty, currentHashes := o.currentHashes, mergedIds := o.mergedIds, state := o.state }

/-- The stored form of an object. -/
def dump (o : Object) : Bytes :=
  o.dumpFrame.pack

/-- The object that was stored in this form. -/
def load (variant : Variant) (scope : Scope) (data : Bytes) : Except Error Object :=
  match DumpFrame.unpack data with
  | .error fault => .error (.data fault)
  | .ok f =>
    if f.version ≠ DumpFrame.currentVersion then .error (.data (.version f.version))
    else if f.variant ≠ variant then .error (.data (.variant f.variant variant))
    else
      .ok {
        variant, scope, state := f.state, origin := f.origin, seqno := f.seqno, dirty := f.dirty
        currentHashes := f.currentHashes, mergedIds := f.mergedIds }

/-- The object once its stored form is up to date. -/
def markDumped (o : Object) : Object :=
  { o with needsDump := false }

/-- The object once its scope is gone. -/
def destroy (o : Object) : Object :=
  { o with destroyed := true }

/-! ### Editing -/

/-- The draft that an edit at this time works on. -/
def draft (o : Object) (now : Int64) (entropy : Entropy) : Draft :=
  { variant := o.variant, origin := o.origin, timestamp := now, state := o.state, entropy }

/-- The object with an edited state. Only a state that differs makes a new revision. -/
def revise (o : Object) (state : State) : Object :=
  if state = o.state then o
  else { o with state, seqno := o.seqno + 1, dirty := true, needsDump := true }

/-- Edits the object at a time. -/
def edit (o : Object) (now : Int64) (entropy : Entropy) (step : EditM α) :
    Except Error (Edited α) :=
  if o.destroyed then .error (.gone o.scope)
  else
    match step (o.draft now entropy) with
    | .ok x d => .ok { object := o.revise d.state, entropy := d.entropy, result := .ok x }
    | .error error d => .ok { object := o.revise d.state, entropy := d.entropy, result := .error error }

/-! ### Pushing -/

/-- What other replicas are told of the object. -/
def pushFrame (o : Object) : PushFrame :=
  { version := PushFrame.currentVersion, variant := o.variant, seqno := o.seqno, state := o.state }

/-- The update that brings other replicas to this object's state. -/
def push (o : Object) : Push :=
  { seqno := o.seqno, data := o.pushFrame.pack }

/-- Takes note that the push of a revision is held under a hash. The object is clean if that was the
present revision; revisions that were never made are not taken note of. -/
def confirm (o : Object) (seqno : UInt64) (hash : String) : Object :=
  if o.seqno < seqno then o
  else
    { o with
      currentHashes := [hash]
      needsDump := true
      dirty := if seqno = o.seqno then false else o.dirty }

/-! ### Merging -/

/-- Whether an update is among those merged last. -/
def hasMerged (o : Object) (id : String) : Bool :=
  o.mergedIds.contains id

/-- Reads the state that an update carries. -/
def readUpdate (o : Object) (data : Bytes) : Except CorruptReason State :=
  match PushFrame.unpack data with
  | .error reason => .error reason
  | .ok f =>
    if f.version ≠ PushFrame.currentVersion then .error (.version f.version)
    else if f.variant ≠ o.variant then .error (.variant f.variant o.variant)
    else
      match f.state.check o.variant with
      | .error fault => .error (.schema fault)
      | .ok () => .ok f.state

/-- The object with the state of an update joined to its own. -/
def absorb (o : Object) (id : String) (state : State) : Object :=
  { o with
    state := o.state.join state
    mergedIds := keepLast o.memory (o.mergedIds ++ [id])
    needsDump := true }

/-- Merges an update. Gives whether a visible value changed; an update that was merged already
changes nothing. -/
def merge (o : Object) (id : String) (data : Bytes) : Except Error (Bool × Object) :=
  if o.destroyed then .error (.gone o.scope)
  else if o.hasMerged id then .ok (false, o)
  else
    match o.readUpdate data with
    | .error reason => .error (.corruptUpdate id reason)
    | .ok state => .ok (o.state.joinReveals state, o.absorb id state)

/-! ### Reading -/

/-- Reads a field of a shape. -/
def field? (o : Object) (shape : Json.Shape) (collection key : String) :
    Except Error (Option shape.Value) :=
  o.state.field? shape collection key

/-- The record under a key. -/
def record? (o : Object) (α : Type) [Record α] (key : String) : Except Error (Option α) := do
  Record.checkHome α o.variant
  o.state.record? α key

/-- All records of a type, in the order of their keys. -/
def records (o : Object) (α : Type) [Record α] : Except Error (List α) := do
  Record.checkHome α o.variant
  o.state.records α

/-- Refuses objects of another variant. -/
def expect (o : Object) (variant : Variant) : Except Error Unit :=
  if o.variant = variant then .ok () else .error (.misuse (.wrongObject variant o.variant))

end Object

end ConfigReplica.Config
