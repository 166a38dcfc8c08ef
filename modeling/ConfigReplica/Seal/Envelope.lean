import ConfigReplica.Digest.Sha256
import ConfigReplica.Entropy
import ConfigReplica.Error
import ConfigReplica.Seal.Basic

/-!
# Envelopes

Every device of an account holds the account's secret. What it sends is put into an envelope: sealed
for an account or a group and for one purpose, the domain, under a key that is drawn from the secret
for just these two (`Keyring.keyFor`). The domain is bound into the tag as well, so an envelope opens
only for the scope and the domain it was made for (`Keyring.unwrap_wrapWith`).

An envelope is the nonce, the covered message and the tag.
-/

namespace ConfigReplica.Seal

/-- The size of a nonce in bytes. -/
def nonceSize : Nat := 12

/-- What keys of this version are drawn for, before the domain. -/
def purposePrefix : String := "swarmsync-config-v1:"

/-- What a device seals and opens with. -/
structure Keyring where
  user : Identity
  secret : Vector UInt8 32
  deriving DecidableEq

namespace Keyring

/-- The key for one holder and one domain. -/
def keyFor (ring : Keyring) (holder : Identity) (domain : String) : Bytes :=
  Digest.Sha256.deriveKey (Bytes.utf8 holder.hex) ring.secret.toList
    (Bytes.utf8 (purposePrefix ++ domain))

/-- Who an envelope is for: the group where there is one. -/
def holder (recipient : Identity) (group : Option GroupId) : Identity :=
  (group.map GroupId.identity).getD recipient

/-- The envelope of a message under a nonce. -/
def wrapWith (ring : Keyring) (nonce : Vector UInt8 nonceSize) (holder : Identity)
    (domain : String) (message : Bytes) : Bytes :=
  nonce.toList ++
    close (ring.keyFor holder domain) nonce.toList (Bytes.utf8 domain) message

/-- Seals a message for an account, or for a group where there is one, under a fresh nonce. -/
def wrap (ring : Keyring) (entropy : Entropy) (message : Bytes) (domain : String)
    (recipient : Identity) (group : Option GroupId) : Bytes × Entropy :=
  let (nonce, entropy) := entropy.block nonceSize
  (ring.wrapWith nonce (holder recipient group) domain message, entropy)

/-- Opens an envelope that is for this account, or for a group where there is one. -/
def unwrap (ring : Keyring) (envelope : Bytes) (domain : String) (group : Option GroupId) :
    Except Error Bytes :=
  if envelope.length < nonceSize then .error (.sealing .tooShort)
  else
    let key := ring.keyFor (holder ring.user group) domain
    match open? key (envelope.take nonceSize) (Bytes.utf8 domain) (envelope.drop nonceSize) with
    | some message => .ok message
    | none => .error (.sealing .refused)

/-- What one device seals for the account or a group, every device of the account opens. -/
theorem unwrap_wrapWith (ring : Keyring) (nonce : Vector UInt8 nonceSize) (group : Option GroupId)
    (domain : String) (message : Bytes) :
    ring.unwrap (ring.wrapWith nonce (holder ring.user group) domain message) domain group =
      .ok message := by
  have size : nonce.toList.length = nonceSize := Vector.length_toList
  have front (rest : Bytes) : (nonce.toList ++ rest).take nonceSize = nonce.toList :=
    List.take_left' size
  have back (rest : Bytes) : (nonce.toList ++ rest).drop nonceSize = rest :=
    List.drop_left' size
  have long (rest : Bytes) : ¬ (nonce.toList ++ rest).length < nonceSize := by
    rw [List.length_append, size]
    omega
  simp only [unwrap, wrapWith, front, back, long, if_false, open?_close]

end Keyring

end ConfigReplica.Seal
