import ConfigReplica.Config.GroupRecords
import ConfigReplica.Config.Object

/-!
# Groups

The description of a group, and its keys. A key is made one generation above the newest one and is
never removed, so no replica loses a key that another one made.
-/

namespace ConfigReplica.Config

/-- The description of a group. -/
structure GroupInfo where
  name : Option String
  description : Option String
  created : Option Int64
  /-- After how many seconds messages disappear. -/
  expiryTimer : Option UInt64
  /-- An admin deleted the group for everyone. -/
  isDestroyed : Bool
  deriving DecidableEq, Repr

namespace GroupInfo

/-- The description that an object holds. -/
def read (o : Object) : Except Error GroupInfo := do
  o.expect .groupInfo
  let name ← o.field? .text Collection.info "name"
  let description ← o.field? .text Collection.info "description"
  let created ← o.field? .int Collection.info "created_ms"
  let expiryTimer ← o.field? .word Collection.info "expiry_timer_s"
  let isDestroyed ← o.field? .flag Collection.info "destroyed"
  pure { name, description, created, expiryTimer, isDestroyed := isDestroyed.getD false }

/-- Sets the name. -/
def setName (name : String) : EditM Bool :=
  EditM.setField .text Collection.info "name" name

/-- Sets or removes the description. -/
def setDescription (text : Option String) : EditM Bool :=
  EditM.setOrRemove .text Collection.info "description" text

/-- Sets the time at which the group was made. -/
def setCreated (created : Int64) : EditM Bool :=
  EditM.setField .int Collection.info "created_ms" created

/-- Sets or removes the time after which messages disappear. -/
def setExpiryTimer (seconds : Option UInt64) : EditM Bool :=
  EditM.setOrRemove .word Collection.info "expiry_timer_s" seconds

/-- Marks the group as deleted for everyone. -/
def markDestroyed : EditM Bool :=
  EditM.setField .flag Collection.info "destroyed" true

end GroupInfo

namespace GroupKey

/-- The newest key of a group. -/
def current (o : Object) : Except Error (Option GroupKey) :=
  (o.records GroupKey).map List.getLast?

/-- The generation after the newest of some keys. -/
def nextGeneration (keys : List GroupKey) : UInt64 :=
  match keys.getLast? with
  | some newest => newest.generation + 1
  | none => 0

/-- Makes a new key, one generation above the newest one. -/
def rekey : EditM GroupKey := do
  let keys ← EditM.records GroupKey
  let bytes ← EditM.draw 32
  let key : GroupKey := { generation := nextGeneration keys, key := Hex.encode bytes.toList }
  discard (EditM.setRecord key)
  pure key

end GroupKey

end ConfigReplica.Config
