import ConfigReplica.Config.Conversation
import ConfigReplica.Config.Object

/-!
# Read marks

How far a conversation was read only moves forward under edits made here; reading on takes back a
mark of being unread.
-/

namespace ConfigReplica.Config.Conversation

/-- The record of a conversation, or a new one. -/
def findOrNew (kind : ConversationKind) (id : String) : EditM Conversation := do
  let found ← EditM.record? Conversation (keyOf kind id)
  pure (found.getD { kind, id })

/-- Moves the read mark to a time; earlier times are ignored. -/
def markRead (kind : ConversationKind) (id : String) (time : Int64) : EditM Bool := do
  let c ← findOrNew kind id
  if time ≤ c.lastRead then pure false
  else EditM.setRecord { c with lastRead := time, unread := false }

/-- Marks a conversation as unread, or takes the mark back. -/
def setUnread (kind : ConversationKind) (id : String) (unread : Bool) : EditM Bool := do
  let c ← findOrNew kind id
  EditM.setRecord { c with unread }

end ConfigReplica.Config.Conversation
