import ConfigReplica.Fresh
import ConfigReplica.Seal.Envelope
import ConfigReplica.Store
import ConfigReplica.Text.Utf8Fault

/-!
# Accounts

The account of a store is its identity and its secret, each in a row of its own. Where either is
missing a new account is made. The secret is written first, so that an identity never stands without
a secret.
-/

namespace ConfigReplica.Account

/-- The key of the row with the identity. -/
def idKey : String := "account_id"

/-- The key of the row with the secret. -/
def secretKey : String := "session_secret"

/-- Why a store gives no account. -/
inductive Fault where
  /-- The store failed. -/
  | store (error : Error)
  /-- The stored identity is no text. -/
  | idEncoding (fault : Text.Utf8Fault)
  /-- The stored secret has not 32 bytes. -/
  | secretSize
  /-- The stored identity cannot be read. -/
  | badId (text : String) (error : Error)
  deriving DecidableEq, Repr

/-- A store, and what new accounts are made of. -/
structure Vault where
  store : Store
  entropy : Entropy

/-- An action on a store that may make an account. -/
abbrev VaultM := EStateM Fault Vault

/-- Acts on the store alone. -/
def onStore {α : Type} (action : StoreM α) : VaultM α := fun vault =>
  match action vault.store with
  | .ok x store => .ok x { vault with store }
  | .error error store => .error (.store error) { vault with store }

/-- Reads the rows of an account. -/
def read (id secret : Bytes) : Except Fault Seal.Keyring :=
  match Bytes.ofUtf8? id with
  | none => .error (.idEncoding ((Text.Utf8Fault.find? id).getD ⟨0, none⟩))
  | some text =>
    if h : secret.length = 32 then
      match Identity.read text with
      | .ok user => .ok { user, secret := ⟨secret.toArray, by simpa using h⟩ }
      | .error error => .error (.badId text error)
    else .error .secretSize

/-- Draws a new account. -/
def draw : VaultM Seal.Keyring := fun vault =>
  let (user, entropy) := vault.entropy.account
  let (secret, entropy) := entropy.secret
  .ok { user, secret } { vault with entropy }

/-- Writes the rows of an account. -/
def write (ring : Seal.Keyring) : StoreM Unit := do
  StoreM.put .accountData secretKey ring.secret.toList
  StoreM.put .accountData idKey (Bytes.utf8 ring.user.hex)

/-- The account of a store, which is made if there is none. -/
def openOrCreate : VaultM Seal.Keyring := do
  let id ← onStore (StoreM.get? .accountData idKey)
  let secret ← onStore (StoreM.get? .accountData secretKey)
  match id, secret with
  | some id, some secret =>
    match read id secret with
    | .ok ring => pure ring
    | .error fault => throw fault
  | _, _ => do
    let ring ← draw
    onStore (write ring)
    pure ring

end ConfigReplica.Account
