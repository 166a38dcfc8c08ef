import ConfigReplica.Config.Contact
import ConfigReplica.Config.Membership
import ConfigReplica.Config.Profile
import ConfigReplica.Session.Object

/-!
# Looking up conversations

Whether the account has a conversation: with itself, with a contact, in a group or in a community.
Hidden conversations, those with a negative priority, can be left out.
-/

namespace ConfigReplica

/-- What a conversation is looked up by. -/
inductive ConversationName where
  /-- The identity of a contact, or of the account itself. -/
  | contact (id : String)
  /-- The identity of a group. -/
  | group (id : String)
  /-- The key of a community. -/
  | community (key : String)
  deriving DecidableEq, Repr

namespace SessionM

open Config

/-- Whether a priority counts. -/
def counts (visibleOnly : Bool) (priority : Int64) : Bool :=
  !visibleOnly || 0 ≤ priority

/-- Whether the account has a conversation. The memberships are looked at for all but contacts, also
where no conversation is named; none is found then. -/
def hasConversation (visibleOnly : Bool) : Option ConversationName → SessionM Bool
  | some (.contact id) => do
    if id = (← session).ring.user.hex then
      let profile ← ofExcept (Profile.read (← read .userProfile .account))
      pure (counts visibleOnly profile.notesPriority)
    else
      let contact ← ofExcept ((← read .contacts .account).record? Contact id)
      pure (contact.any fun c => counts visibleOnly c.priority)
  | some (.group id) => do
    let entry ← ofExcept ((← read .userGroups .account).record? GroupEntry id)
    pure (entry.any fun g => counts visibleOnly g.priority)
  | some (.community key) => do
    let entry ← ofExcept ((← read .userGroups .account).record? CommunityEntry key)
    pure (entry.any fun c => counts visibleOnly c.priority)
  | none => do
    discard (read .userGroups .account)
    pure false

end SessionM

end ConfigReplica
