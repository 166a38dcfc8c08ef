import ConfigReplica.Hex
import ConfigReplica.Text.Blank
import Std.Data.ExtTreeMap

/-!
# Identities

An identity names an account or a group on the network: a tag byte that says which, and a public key
of 32 bytes. It is shown as 66 hexadecimal digits and read from such a text, with blanks around it
and digits of either case.
-/

namespace ConfigReplica

/-- The name of an account or a group. -/
structure Identity where
  tag : UInt8
  key : Vector UInt8 32
  deriving DecidableEq, Repr

namespace Identity

/-- The tag of accounts. -/
def accountTag : UInt8 := 0x05

/-- The tag of groups. -/
def groupTag : UInt8 := 0x03

/-- The size of an identity in bytes. -/
def size : Nat := 33

/-- Identities are ordered by their bytes. -/
def order : Identity → Identity → Ordering :=
  compareLex (compareOn Identity.tag) (compareOn Identity.key)

instance : Ord Identity := ⟨order⟩

instance : Std.TransOrd Identity :=
  inferInstanceAs (Std.TransCmp (compareLex (compareOn Identity.tag) (compareOn Identity.key)))

instance : Std.LawfulEqOrd Identity where
  eq_of_compare {a b} h := by
    have both : compareOn Identity.tag a b = .eq ∧ compareOn Identity.key a b = .eq :=
      Ordering.then_eq_eq.mp h
    cases a
    cases b
    simp only [compareOn, Std.compare_eq_iff_eq] at both
    simp [both.1, both.2]

/-- Whether the tag is that of a group. -/
def isGroup (id : Identity) : Bool :=
  id.tag == groupTag

/-- The tag and the key. -/
def bytes (id : Identity) : Bytes :=
  id.tag :: id.key.toList

/-- The text of an identity. -/
def hex (id : Identity) : String :=
  Hex.encode id.bytes

/-- Why a text names no identity. -/
inductive Fault where
  /-- It is not hexadecimal. -/
  | badHex (fault : Hex.Fault)
  /-- It stands for another number of bytes. -/
  | wrongSize (size : Nat)
  /-- It names something that is not a group. -/
  | notGroup (id : Identity)
  deriving DecidableEq, Repr

/-- The wording of a fault. -/
def Fault.message : Fault → String
  | .badHex fault => fault.message
  | .wrongSize size => s!"session id must be 33 bytes, got {size}"
  | .notGroup id => s!"{id.hex} is not a group id"

/-- The identity of these bytes. -/
def ofBytes (bytes : Bytes) : Except Fault Identity :=
  match bytes with
  | [] => .error (.wrongSize 0)
  | tag :: key =>
    if h : key.length = 32 then .ok { tag, key := ⟨key.toArray, by simpa using h⟩ }
    else .error (.wrongSize (key.length + 1))

/-- Reads an identity; blanks around it are trimmed. -/
def parse (text : String) : Except Fault Identity :=
  match Hex.decode (String.ofList (Text.trim text.toList)) with
  | .error fault => .error (.badHex fault)
  | .ok bytes => ofBytes bytes

end Identity

/-- The name of a group. Those that are read from text have the tag of groups; those in stored
records have whatever tag was stored. -/
structure GroupId where
  identity : Identity
  deriving DecidableEq, Repr

namespace GroupId

instance : Ord GroupId := ⟨compareOn GroupId.identity⟩

instance : Std.TransOrd GroupId :=
  inferInstanceAs (Std.TransCmp (compareOn GroupId.identity))

instance : Std.LawfulEqOrd GroupId where
  eq_of_compare {a b} h := by
    have same : a.identity = b.identity := Std.compare_eq_iff_eq.mp h
    cases a
    cases b
    simpa using same

/-- The text of a group's name. -/
def hex (group : GroupId) : String :=
  group.identity.hex

/-- The group with this identity. -/
def ofIdentity (id : Identity) : Except Identity.Fault GroupId :=
  if id.isGroup then .ok ⟨id⟩ else .error (.notGroup id)

/-- Reads the name of a group. -/
def parse (text : String) : Except Identity.Fault GroupId :=
  match Identity.parse text with
  | .error fault => .error fault
  | .ok id => ofIdentity id

end GroupId

end ConfigReplica
