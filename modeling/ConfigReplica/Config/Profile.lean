import ConfigReplica.Config.Object

/-!
# The profile

What an account says about itself, as fields of one collection.
-/

namespace ConfigReplica.Config

open Json

/-- Where a picture is, and the key that opens it. -/
structure Picture where
  url : String
  /-- The key in hexadecimal digits. -/
  key : String
  deriving DecidableEq, Repr

/-- The profile of an account. -/
structure Profile where
  name : Option String
  picture : Option Picture
  /-- The priority of the conversation with oneself; a negative one hides it. -/
  notesPriority : Int64
  /-- Whether requests under a blinded identity are taken; nothing leaves it to the client. -/
  blindedRequests : Option Bool
  deriving DecidableEq, Repr

namespace Picture

/-- How a picture is stored. -/
def shape : Shape :=
  .record "ProfilePic" (.field "url" .text (.field "key" .text .done))

/-- The stored form. -/
def toValue (p : Picture) : shape.Value :=
  (p.url, p.key, ())

/-- The picture of a stored form. -/
def ofValue (value : shape.Value) : Picture :=
  { url := value.1, key := value.2.1 }

end Picture

namespace Profile

/-- The profile that an object holds. -/
def read (o : Object) : Except Error Profile := do
  o.expect .userProfile
  let name ← o.field? .text Collection.profile "name"
  let picture ← o.field? Picture.shape Collection.profile "picture"
  let priority ← o.field? .int Collection.profile "nts_priority"
  let blindedRequests ← o.field? .flag Collection.profile "blinded_msgreqs"
  pure { name, picture := picture.map Picture.ofValue, notesPriority := priority.getD 0, blindedRequests }

/-- Sets the name. -/
def setName (name : String) : EditM Bool :=
  EditM.setField .text Collection.profile "name" name

/-- Sets or removes the picture. -/
def setPicture (picture : Option Picture) : EditM Bool :=
  EditM.setOrRemove Picture.shape Collection.profile "picture" (picture.map Picture.toValue)

/-- Sets the priority of the conversation with oneself. -/
def setNotesPriority (priority : Int64) : EditM Bool :=
  EditM.setField .int Collection.profile "nts_priority" priority

/-- Sets whether blinded requests are taken, or leaves it to the client. -/
def setBlindedRequests (taken : Option Bool) : EditM Bool :=
  EditM.setOrRemove .flag Collection.profile "blinded_msgreqs" taken

end Profile

end ConfigReplica.Config
