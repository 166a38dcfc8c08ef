import ConfigReplica.Config.Record

/-!
# Contacts

One record for each contact of the account, under the contact's identity.
-/

namespace ConfigReplica.Config

open Json

/-- Whether the messages of a conversation disappear, and how many seconds after which event. -/
inductive Expiry where
  | never
  | afterSend (seconds : UInt64)
  | afterRead (seconds : UInt64)
  deriving DecidableEq, Repr

/-- A contact of the account. -/
structure Contact where
  id : Identity
  name : Option String := none
  nickname : Option String := none
  /-- The account accepted the contact's request. -/
  approved : Bool := false
  /-- The contact accepted the account's request. -/
  approvedMe : Bool := false
  blocked : Bool := false
  /-- The place among pinned conversations; a negative one hides the conversation. -/
  priority : Int64 := 0
  expiry : Expiry := .never
  created : Int64 := 0
  deriving DecidableEq, Repr

namespace Expiry

/-- The alternatives as they are stored. -/
def arms : Arms :=
  .bare "None" (.carrying "AfterSend" .word (.carrying "AfterRead" .word .done))

/-- The stored form. -/
def toValue : Expiry → arms.Value
  | never => .inl ()
  | afterSend seconds => .inr (.inl seconds)
  | afterRead seconds => .inr (.inr (.inl seconds))

/-- The mode of a stored form. -/
def ofValue : arms.Value → Expiry
  | .inl () => never
  | .inr (.inl seconds) => afterSend seconds
  | .inr (.inr (.inl seconds)) => afterRead seconds

@[simp] theorem ofValue_toValue (e : Expiry) : ofValue e.toValue = e := by
  cases e <;> rfl

end Expiry

namespace Contact

/-- The name to show: the nickname if there is one. -/
def displayName (c : Contact) : Option String :=
  c.nickname <|> c.name

/-- Whether the conversation is shown. -/
def isVisible (c : Contact) : Bool :=
  0 ≤ c.priority

/-- The members of a stored contact. -/
def fields : Fields :=
  .field "session_id" identityShape <| .field "name" (.optional .text) <|
  .field "nickname" (.optional .text) <| .field "approved" .flag <| .field "approved_me" .flag <|
  .field "blocked" .flag <| .field "priority" .int <| .field "expiry" (.choice Expiry.arms) <|
  .field "created_ms" .int .done

instance : Record Contact where
  home := .contacts
  collection := Collection.contacts
  shape := .record "Contact" fields
  toValue c :=
    (identityValue c.id, c.name, c.nickname, c.approved, c.approvedMe, c.blocked, c.priority,
      c.expiry.toValue, c.created, ())
  ofValue := fun (id, name, nickname, approved, approvedMe, blocked, priority, expiry, created, ()) =>
    { id := identityOf id, name, nickname, approved, approvedMe, blocked, priority
      expiry := Expiry.ofValue expiry, created }
  ofValue_toValue c := by simp
  key c := c.id.hex

end Contact

end ConfigReplica.Config
