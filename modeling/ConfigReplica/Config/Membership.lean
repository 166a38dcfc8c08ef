import ConfigReplica.Config.Record
import ConfigReplica.Text.Lowercase

/-!
# Memberships

The groups and communities that an account belongs to. A group stands under its identity, a community
under its address and room, where the address is taken in lower case and without slashes at its end.
-/

namespace ConfigReplica.Config

open Json

/-- The account's membership in a group. -/
structure GroupEntry where
  group : GroupId
  name : String
  priority : Int64 := 0
  joinedAt : Int64 := 0
  /-- Invited, but not joined yet. -/
  invited : Bool := false
  /-- Removed by an admin. -/
  kicked : Bool := false
  /-- The admin's key, held by admins only. -/
  adminKey : Option String := none
  /-- What proves a member's right to write. -/
  authData : Option String := none
  deriving DecidableEq, Repr

/-- A community that the account joined. -/
structure CommunityEntry where
  baseUrl : String
  room : String
  pubkey : String
  priority : Int64 := 0
  deriving DecidableEq, Repr

namespace GroupEntry

/-- Whether the account is an admin of the group. -/
def isAdmin (g : GroupEntry) : Bool :=
  g.adminKey.isSome

instance : Record GroupEntry where
  home := .userGroups
  collection := Collection.groups
  shape := .record "GroupEntry" <|
    .field "group_id" identityShape <| .field "name" .text <| .field "priority" .int <|
    .field "joined_at_ms" .int <| .field "invited" .flag <| .field "kicked" .flag <|
    .field "admin_key" (.optional .text) <| .field "auth_data" (.optional .text) .done
  toValue g :=
    (identityValue g.group.identity, g.name, g.priority, g.joinedAt, g.invited, g.kicked, g.adminKey,
      g.authData, ())
  ofValue := fun (group, name, priority, joinedAt, invited, kicked, adminKey, authData, ()) =>
    { group := ⟨identityOf group⟩, name, priority, joinedAt, invited, kicked, adminKey, authData }
  ofValue_toValue g := by simp
  key g := g.group.hex

end GroupEntry

namespace CommunityEntry

/-- An address without the slashes at its end, in lower case. -/
def normalize (baseUrl : String) : List Char :=
  Text.lower (baseUrl.toList.reverse.dropWhile (· = '/')).reverse

/-- The key of a community. -/
def keyOf (baseUrl room : String) : String :=
  String.ofList (normalize baseUrl ++ '/' :: room.toList)

instance : Record CommunityEntry where
  home := .userGroups
  collection := Collection.communities
  shape := .record "CommunityEntry" <|
    .field "base_url" .text <| .field "room" .text <| .field "pubkey" .text <|
    .field "priority" .int .done
  toValue c := (c.baseUrl, c.room, c.pubkey, c.priority, ())
  ofValue := fun (baseUrl, room, pubkey, priority, ()) => { baseUrl, room, pubkey, priority }
  ofValue_toValue _ := rfl
  key c := keyOf c.baseUrl c.room

end CommunityEntry

end ConfigReplica.Config
