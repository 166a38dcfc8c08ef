import ConfigReplica.Entropy
import ConfigReplica.Identity

/-!
# Fresh names and secrets

What is made up when an account or a group is created: its name, with a random key under the right
tag, and the secret that all devices of an account share.
-/

namespace ConfigReplica.Entropy

/-- A new account. -/
def account (e : Entropy) : Identity × Entropy :=
  let (key, e) := e.block 32
  ({ tag := Identity.accountTag, key }, e)

/-- A new group. -/
def group (e : Entropy) : GroupId × Entropy :=
  let (key, e) := e.block 32
  (⟨{ tag := Identity.groupTag, key }⟩, e)

/-- A new secret. -/
def secret (e : Entropy) : Vector UInt8 32 × Entropy :=
  e.block 32

end ConfigReplica.Entropy
