import ConfigReplica.Config.Schema
import ConfigReplica.Json.Shape

/-!
# Records

The values of most collections are records: JSON objects of a fixed shape, each under a key that
follows from its content. A type of records says where they live and how they are written
(`Record`); single values under fixed keys are fields, which have a shape only.
-/

namespace ConfigReplica.Config

open Json

/-- A type whose values are stored as records. -/
class Record (α : Type) where
  /-- The variant whose objects hold the records. -/
  home : Variant
  /-- The collection they are in. -/
  collection : String
  /-- How a record is written. -/
  shape : Shape
  toValue : α → shape.Value
  ofValue : shape.Value → α
  /-- Nothing of a record is lost in writing. -/
  ofValue_toValue : ∀ record, ofValue (toValue record) = record
  /-- The key of a record. -/
  key : α → String

namespace Record

variable {α : Type} [Record α]

/-- The stored text of a record. -/
def encode (record : α) : String :=
  (shape α).encode (toValue record)

/-- The record that a stored text stands for. -/
def decode (text : String) : Except Error α :=
  match (shape α).decode text with
  | .ok value => .ok (ofValue value)
  | .error fault => .error (.data (.json fault))

/-- Refuses a variant that does not hold the records. -/
def checkHome (α : Type) [Record α] (variant : Variant) : Except Error Unit :=
  if home α = variant then .ok ()
  else .error (.misuse (.wrongRecords (collection α) (home α) variant))

end Record

namespace State

/-- Reads a field of a shape. -/
def field? (s : State) (shape : Shape) (collection key : String) :
    Except Error (Option shape.Value) :=
  match s.get? collection key with
  | none => .ok none
  | some text =>
    match shape.decode text with
    | .ok value => .ok (some value)
    | .error fault => .error (.data (.json fault))

variable {α : Type} [Record α]

/-- The record under a key. -/
def record? (s : State) (α : Type) [Record α] (key : String) : Except Error (Option α) :=
  match s.get? (Record.collection α) key with
  | none => .ok none
  | some text => (Record.decode text).map some

/-- All records of a type, in the order of their keys; the first one that cannot be read is an
error. -/
def records (s : State) (α : Type) [Record α] : Except Error (List α) :=
  (s.live (Record.collection α)).mapM fun (_, text) => Record.decode text

end State

/-! ### Shapes in common -/

/-- An identity in a record. -/
def identityShape : Shape :=
  .record "SessionId" (.field "prefix" .byte (.field "key" (.vector 32 .byte) .done))

/-- The stored form of an identity. -/
def identityValue (id : Identity) : identityShape.Value :=
  (id.tag, id.key, ())

/-- The identity of a stored form. -/
def identityOf (value : identityShape.Value) : Identity :=
  { tag := value.1, key := value.2.1 }

@[simp] theorem identityOf_identityValue (id : Identity) : identityOf (identityValue id) = id := rfl

end ConfigReplica.Config
