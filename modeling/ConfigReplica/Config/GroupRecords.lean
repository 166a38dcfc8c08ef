import ConfigReplica.Config.Record

/-!
# The records of a group

The members of a group, each under its identity, and the generations of the group's key, each under
its number. The number is filled up with zeros, so that keys stand in the order of their generations.
-/

namespace ConfigReplica.Config

open Json

/-- How far a member has come. -/
inductive MemberStatus where
  | inviteNotSent
  | inviteSent
  | inviteFailed
  | joined
  | promotionSent
  | promotionFailed
  | removed
  deriving DecidableEq, Repr

/-- A member of a group. -/
structure GroupMember where
  id : Identity
  name : Option String := none
  admin : Bool := false
  status : MemberStatus := .inviteNotSent
  deriving DecidableEq, Repr

/-- One generation of a group's key. -/
structure GroupKey where
  generation : UInt64
  /-- The key in hexadecimal digits. -/
  key : String
  deriving DecidableEq, Repr

namespace MemberStatus

/-- All states, in the order in which they are stored. -/
def all : List MemberStatus :=
  [inviteNotSent, inviteSent, inviteFailed, joined, promotionSent, promotionFailed, removed]

/-- The stored name of a state. -/
def name : MemberStatus → String
  | inviteNotSent => "InviteNotSent"
  | inviteSent => "InviteSent"
  | inviteFailed => "InviteFailed"
  | joined => "Joined"
  | promotionSent => "PromotionSent"
  | promotionFailed => "PromotionFailed"
  | removed => "Removed"

/-- The state with this name. -/
def ofName? (name : String) : Option MemberStatus :=
  all.find? fun status => status.name == name

/-- The states as they are stored. -/
def arms : Arms :=
  .bare "InviteNotSent" <| .bare "InviteSent" <| .bare "InviteFailed" <| .bare "Joined" <|
  .bare "PromotionSent" <| .bare "PromotionFailed" <| .bare "Removed" .done

/-- The stored form. -/
def toValue : MemberStatus → arms.Value
  | inviteNotSent => .inl ()
  | inviteSent => .inr (.inl ())
  | inviteFailed => .inr (.inr (.inl ()))
  | joined => .inr (.inr (.inr (.inl ())))
  | promotionSent => .inr (.inr (.inr (.inr (.inl ()))))
  | promotionFailed => .inr (.inr (.inr (.inr (.inr (.inl ())))))
  | removed => .inr (.inr (.inr (.inr (.inr (.inr (.inl ()))))))

/-- The state of a stored form. -/
def ofValue : arms.Value → MemberStatus
  | .inl () => inviteNotSent
  | .inr (.inl ()) => inviteSent
  | .inr (.inr (.inl ())) => inviteFailed
  | .inr (.inr (.inr (.inl ()))) => joined
  | .inr (.inr (.inr (.inr (.inl ())))) => promotionSent
  | .inr (.inr (.inr (.inr (.inr (.inl ()))))) => promotionFailed
  | .inr (.inr (.inr (.inr (.inr (.inr (.inl ())))))) => removed

@[simp] theorem ofValue_toValue (s : MemberStatus) : ofValue s.toValue = s := by
  cases s <;> rfl

end MemberStatus

namespace GroupMember

instance : Record GroupMember where
  home := .groupMembers
  collection := Collection.members
  shape := .record "GroupMember" <|
    .field "session_id" identityShape <| .field "name" (.optional .text) <|
    .field "admin" .flag <| .field "status" (.choice MemberStatus.arms) .done
  toValue m := (identityValue m.id, m.name, m.admin, m.status.toValue, ())
  ofValue := fun (id, name, admin, status, ()) =>
    { id := identityOf id, name, admin, status := MemberStatus.ofValue status }
  ofValue_toValue m := by simp
  key m := m.id.hex

end GroupMember

namespace GroupKey

/-- The key of a generation: its number in twenty digits. -/
def keyOf (generation : UInt64) : String :=
  String.ofList (Decimal.padded 20 generation.toNat)

instance : Record GroupKey where
  home := .groupKeys
  collection := Collection.keys
  shape := .record "GroupKey" (.field "generation" .word (.field "key" .text .done))
  toValue k := (k.generation, k.key, ())
  ofValue := fun (generation, key, ()) => { generation, key }
  ofValue_toValue _ := rfl
  key k := keyOf k.generation

end GroupKey

end ConfigReplica.Config
