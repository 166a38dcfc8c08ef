import ConfigReplica.Config.Record
import ConfigReplica.Entropy

/-!
# Edits

A local edit works on a draft of an object's state. Whatever else an edit does, it writes through
`EditM.set` and `EditM.remove`, which hold to the variant's schema and stamp every entry so that it
wins over what it replaces, however far ahead the clock of that entry's writer was.

What an edit wrote before it failed stays written; `EditM.attempt` goes on after a failure.
-/

namespace ConfigReplica.Config

/-- An object's state while it is edited, and what its entries are stamped with. -/
structure Draft where
  variant : Variant
  origin : UInt64
  /-- The time of the edit. -/
  timestamp : Int64
  state : State
  entropy : Entropy

/-- A step of an edit. -/
abbrev EditM := EStateM Error Draft

namespace Draft

/-- The time to stamp a write with: that of the edit, or the first one after the entry that is
replaced, if that is later. -/
def stamp (d : Draft) (collection key : String) : Int64 :=
  match d.state.find? collection key with
  | some last => if d.timestamp ≤ last.timestamp then last.timestamp + 1 else d.timestamp
  | none => d.timestamp

/-- The entry that a write of this draft makes. -/
def entry (d : Draft) (collection key : String) (value : Option String) : Entry :=
  { timestamp := d.stamp collection key, origin := d.origin, value }

/-- Writes a value or a removal under a key. Gives whether the visible value changed. -/
def put (d : Draft) (collection key : String) (value : Option String) : Bool × Draft :=
  let e := d.entry collection key value
  (d.state.reveals collection key e, { d with state := d.state.put collection key e })

end Draft

namespace EditM

variable {α : Type}

/-- Runs a step and keeps its error as a result. -/
def attempt (step : EditM α) : EditM (Except Error α) := fun d =>
  match step d with
  | .ok x d => .ok (.ok x) d
  | .error error d => .ok (.error error) d

/-- The outcome of something that only looks at the draft. -/
def look (f : Draft → Except Error α) : EditM α := fun d =>
  match f d with
  | .ok x => .ok x d
  | .error error => .error error d

/-- The visible text of a key. -/
def get? (collection key : String) : EditM (Option String) :=
  look fun d => .ok (d.state.get? collection key)

/-- Sets the text of a key. Nothing is written where the key shows that text already. -/
def set (collection key json : String) : EditM Bool := fun d =>
  match d.variant.rule? collection with
  | none => .error (.misuse (.noCollection d.variant collection)) d
  | some _ =>
    if key.isEmpty then .error (.misuse .emptyKey) d
    else if d.state.get? collection key = some json then .ok false d
    else
      let (changed, d) := d.put collection key (some json)
      .ok changed d

/-- Removes a key, where the collection allows it. Nothing is written where it shows nothing. -/
def remove (collection key : String) : EditM Bool := fun d =>
  match d.variant.rule? collection with
  | none => .error (.misuse (.noCollection d.variant collection)) d
  | some .addOnly => .error (.misuse (.addOnly collection)) d
  | some .lastWriterWins =>
    if d.state.get? collection key = none then .ok false d
    else
      let (changed, d) := d.put collection key none
      .ok changed d

/-- Reads a field of a shape. -/
def field? (shape : Json.Shape) (collection key : String) : EditM (Option shape.Value) :=
  look fun d => d.state.field? shape collection key

/-- Sets a field of a shape. -/
def setField (shape : Json.Shape) (collection key : String) (value : shape.Value) : EditM Bool :=
  set collection key (shape.encode value)

/-- Sets a field, or removes it where there is no value. -/
def setOrRemove (shape : Json.Shape) (collection key : String) (value : Option shape.Value) :
    EditM Bool :=
  match value with
  | some value => setField shape collection key value
  | none => remove collection key

/-- Refuses drafts of a variant that does not hold the records. -/
def checkHome (α : Type) [Record α] : EditM Unit :=
  look fun d => Record.checkHome α d.variant

/-- The record under a key. -/
def record? (α : Type) [Record α] (key : String) : EditM (Option α) := do
  checkHome α
  look fun d => d.state.record? α key

/-- All records of a type, in the order of their keys. -/
def records (α : Type) [Record α] : EditM (List α) := do
  checkHome α
  look fun d => d.state.records α

/-- Stores a record under its key. -/
def setRecord [Record α] (record : α) : EditM Bool := do
  checkHome α
  set (Record.collection α) (Record.key record) (Record.encode record)

/-- Removes the record under a key. -/
def eraseRecord (α : Type) [Record α] (key : String) : EditM Bool := do
  checkHome α
  remove (Record.collection α) key

/-- Draws random bytes. -/
def draw (count : Nat) : EditM (Vector UInt8 count) := fun d =>
  let (bytes, entropy) := d.entropy.block count
  .ok bytes { d with entropy }

end EditM

end ConfigReplica.Config
