import ConfigReplica.Config.Record

/-!
# Conversations

What is volatile about conversations: how far each was read, and whether it was marked as unread. The
key of a record joins the kind of the conversation and its name.
-/

namespace ConfigReplica.Config

open Json

/-- What a conversation is held with. -/
inductive ConversationKind where
  | oneToOne
  | closedGroup
  | community
  deriving DecidableEq, Repr

/-- The read mark of a conversation. -/
structure Conversation where
  kind : ConversationKind
  /-- The identity of a contact or group, or the key of a community. -/
  id : String
  lastRead : Int64 := 0
  /-- Marked as unread by hand. -/
  unread : Bool := false
  deriving DecidableEq, Repr

namespace ConversationKind

/-- How keys name the kind. -/
def label : ConversationKind → String
  | oneToOne => "1to1"
  | closedGroup => "group"
  | community => "community"

/-- The kinds as they are stored. -/
def arms : Arms :=
  .bare "OneToOne" (.bare "ClosedGroup" (.bare "Community" .done))

/-- The stored form. -/
def toValue : ConversationKind → arms.Value
  | oneToOne => .inl ()
  | closedGroup => .inr (.inl ())
  | community => .inr (.inr (.inl ()))

/-- The kind of a stored form. -/
def ofValue : arms.Value → ConversationKind
  | .inl () => oneToOne
  | .inr (.inl ()) => closedGroup
  | .inr (.inr (.inl ())) => community

@[simp] theorem ofValue_toValue (k : ConversationKind) : ofValue k.toValue = k := by
  cases k <;> rfl

end ConversationKind

namespace Conversation

/-- The key of a conversation. -/
def keyOf (kind : ConversationKind) (id : String) : String :=
  kind.label ++ ":" ++ id

instance : Record Conversation where
  home := .convoInfoVolatile
  collection := Collection.conversations
  shape := .record "Conversation" <|
    .field "kind" (.choice ConversationKind.arms) <| .field "id" .text <|
    .field "last_read_ms" .int <| .field "unread" .flag .done
  toValue c := (c.kind.toValue, c.id, c.lastRead, c.unread, ())
  ofValue := fun (kind, id, lastRead, unread, ()) =>
    { kind := ConversationKind.ofValue kind, id, lastRead, unread }
  ofValue_toValue c := by simp
  key c := keyOf c.kind c.id

end Conversation

end ConfigReplica.Config
