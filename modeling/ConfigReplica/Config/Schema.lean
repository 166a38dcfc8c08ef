import ConfigReplica.Config.State
import ConfigReplica.Error
import ConfigReplica.Json.Check

/-!
# Schemas

Every variant declares the collections of its objects and how each is merged. Edits made here and
updates that arrive are held to the same table (`Variant.rule?`); an update is refused as a whole if
one of its entries breaks it (`State.check`).
-/

namespace ConfigReplica

namespace Config

/-- How a collection is merged. -/
inductive MergeRule where
  /-- The last write of a key wins, removals included. -/
  | lastWriterWins
  /-- As before, but nothing may be removed. -/
  | addOnly
  deriving DecidableEq, Repr

namespace Collection

/-- The collection of the account's profile. -/
def profile : String := "profile"
/-- The collection of contacts. -/
def contacts : String := "contacts"
/-- The collection of read marks. -/
def conversations : String := "conversations"
/-- The collection of groups. -/
def groups : String := "groups"
/-- The collection of communities. -/
def communities : String := "communities"
/-- The collection of a group's description. -/
def info : String := "info"
/-- The collection of a group's keys. -/
def keys : String := "keys"
/-- The collection of a group's members. -/
def members : String := "members"

end Collection

end Config

open Config

namespace Variant

/-- The collections of a variant. -/
def schema : Variant → List (String × MergeRule)
  | .userProfile => [(Collection.profile, .lastWriterWins)]
  | .contacts => [(Collection.contacts, .lastWriterWins)]
  | .convoInfoVolatile => [(Collection.conversations, .lastWriterWins)]
  | .userGroups => [(Collection.groups, .lastWriterWins), (Collection.communities, .lastWriterWins)]
  | .groupInfo => [(Collection.info, .lastWriterWins)]
  | .groupKeys => [(Collection.keys, .addOnly)]
  | .groupMembers => [(Collection.members, .lastWriterWins)]

/-- How a variant merges a collection, if it has it. -/
def rule? (variant : Variant) (collection : String) : Option MergeRule :=
  variant.schema.lookup collection

end Variant

namespace Config.State

/-- Checks one entry against the schema of a variant. -/
def checkEntry (variant : Variant) : String × String × Entry → Except SchemaFault Unit
  | (collection, key, e) =>
    match variant.rule? collection with
    | none => .error (.noCollection variant collection)
    | some rule =>
      if key.isEmpty then .error (.emptyKey collection)
      else
        match e.value, rule with
        | none, .addOnly => .error (.removal collection)
        | none, .lastWriterWins => .ok ()
        | some json, _ => (Json.check json).mapError fun fault => .badValue collection key fault

/-- Checks every entry, in order, against the schema of a variant. -/
def check (variant : Variant) (s : State) : Except SchemaFault Unit :=
  s.entries.forM (checkEntry variant)

end Config.State

end ConfigReplica
