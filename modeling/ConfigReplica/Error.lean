import ConfigReplica.Codec.Basic
import ConfigReplica.Json.Fault
import ConfigReplica.Routing.Node
import ConfigReplica.Scope
import ConfigReplica.Zstd.Frame

/-!
# Errors

Everything that an operation can fail with, as a cause; the wording of all of them is in
`Error.message`. Nothing here is fatal: a failed operation is to be tried again later, or the update
that caused it is to be dropped. `Error.isPersistenceFailure` and `Error.isRetryable` tell which.

Where a cause comes from outside the library as a text, it is carried as `other`.
-/

namespace ConfigReplica

/-- Why a text is no identifier. -/
inductive IdFault where
  | identity (fault : Identity.Fault)
  | unknownVariant (name : String)
  | node (fault : Routing.NodeFault)
  | other (text : String)
  deriving DecidableEq, Repr

/-- Why a state does not fit its variant. -/
inductive SchemaFault where
  | noCollection (variant : Variant) (collection : String)
  | emptyKey (collection : String)
  | removal (collection : String)
  | badValue (collection key : String) (fault : Json.Fault)
  deriving DecidableEq, Repr

/-- Why an update that arrived is refused. -/
inductive CorruptReason where
  | compression (fault : Zstd.Fault)
  | frame (fault : CodecFault)
  | version (found : UInt8)
  | variant (found expected : Variant)
  | schema (fault : SchemaFault)
  | other (text : String)
  deriving DecidableEq, Repr

/-- Why stored data cannot be read. -/
inductive DataFault where
  | compression (fault : Zstd.Fault)
  | frame (fault : CodecFault)
  | version (found : UInt8)
  | variant (found expected : Variant)
  | json (fault : Json.Fault)
  | other (text : String)
  deriving DecidableEq, Repr

/-- Why a sealed message does not open. -/
inductive SealFault where
  | tooShort
  | refused
  | other (text : String)
  deriving DecidableEq, Repr

/-- Why an operation does not apply. -/
inductive MisuseFault where
  | wrongScope (variant : Variant) (scope : Scope)
  | noCollection (variant : Variant) (collection : String)
  | emptyKey
  | addOnly (collection : String)
  /-- Records of a collection live in another variant. -/
  | wrongRecords (collection : String) (home found : Variant)
  | wrongObject (expected found : Variant)
  | pathCount (expected found : Nat)
  | pathRepeats
  | noPathSlot (index : Nat)
  | other (text : String)
  deriving DecidableEq, Repr

/-- Why nothing could be sent. -/
inductive TransportFault where
  | rebuilding
  | noPath
  | noSwarm (swarmKey : String)
  | emptySwarm (swarmKey : String)
  | pushCrashed
  | other (text : String)
  deriving DecidableEq, Repr

/-- A scope that is gone, or a text that names one. -/
inductive GoneScope where
  | scope (scope : Scope)
  | other (text : String)
  deriving DecidableEq, Repr

/-- What an operation can fail with. -/
inductive Error where
  /-- An update that arrived cannot be read or does not fit its variant. -/
  | corruptUpdate (id : String) (reason : CorruptReason)
  /-- A change is not newer than the one accepted before. -/
  | staleChange (variant key : String) (timestamp watermark : Int64)
  /-- A path, a node or the network cannot be reached. -/
  | transport (fault : TransportFault)
  /-- The group was removed. -/
  | scopeDestroyed (scope : GoneScope)
  /-- The session was closed. -/
  | sessionClosed
  /-- There are too few nodes to build paths. -/
  | insufficientNodes (needed available : Nat)
  /-- The store failed. -/
  | storage (text : String)
  /-- Stored data cannot be read. -/
  | data (fault : DataFault)
  /-- A message could not be sealed or opened. -/
  | sealing (fault : SealFault)
  /-- Input or output failed. -/
  | device (text : String)
  /-- A text is no identifier. -/
  | invalidId (fault : IdFault)
  /-- The operation does not apply. -/
  | misuse (fault : MisuseFault)
  deriving DecidableEq, Repr

/-! ### Wording -/

/-- The wording of a fault. -/
def IdFault.message : IdFault → String
  | .identity fault => fault.message
  | .unknownVariant name => "unknown config variant: " ++ name
  | .node fault => fault.message
  | .other text => text

/-- The wording of a fault. -/
def SchemaFault.message : SchemaFault → String
  | .noCollection variant collection =>
    variant.name ++ " has no collection '" ++ collection ++ "'"
  | .emptyKey collection => "empty key in '" ++ collection ++ "'"
  | .removal collection => "removal in add-only collection '" ++ collection ++ "'"
  | .badValue collection key fault =>
    "invalid value for " ++ collection ++ "/" ++ key ++ ": " ++ fault.message

/-- The wording of a fault of a compressed text. -/
def Zstd.Fault.message : Zstd.Fault → String
  | .malformed => "bad zstd frame"
  | .oversize limit => "decompressed size exceeds " ++ Decimal.ofNat limit ++ " bytes"

/-- The wording of a reason. -/
def CorruptReason.message : CorruptReason → String
  | .compression fault => fault.message
  | .frame fault => fault.message
  | .version found => "unsupported version " ++ Decimal.ofNat found.toNat
  | .variant found expected => "payload is " ++ found.name ++ ", expected " ++ expected.name
  | .schema fault => fault.message
  | .other text => text

/-- The wording of a fault. -/
def DataFault.message : DataFault → String
  | .compression fault => "dump decompression: " ++ fault.message
  | .frame fault => fault.message
  | .version found => "unsupported dump version " ++ Decimal.ofNat found.toNat
  | .variant found expected => "dump holds " ++ found.name ++ ", expected " ++ expected.name
  | .json fault => fault.message
  | .other text => text

/-- The wording of a fault. -/
def SealFault.message : SealFault → String
  | .tooShort => "Data too short to contain nonce"
  | .refused => "Decryption failed: aead::Error"
  | .other text => text

/-- The wording of a fault. -/
def MisuseFault.message : MisuseFault → String
  | .wrongScope variant scope => variant.name ++ " cannot live in " ++ scope.label ++ " scope"
  | .noCollection variant collection =>
    variant.name ++ " has no collection '" ++ collection ++ "'"
  | .emptyKey => "empty key"
  | .addOnly collection => "'" ++ collection ++ "' is add-only"
  | .wrongRecords collection home found =>
    collection ++ " records live in " ++ home.name ++ ", not " ++ found.name
  | .wrongObject expected found => "expected " ++ expected.name ++ " object, got " ++ found.name
  | .pathCount expected found =>
    "expected " ++ Decimal.ofNat expected ++ " paths, got " ++ Decimal.ofNat found
  | .pathRepeats => "path reuses a node"
  | .noPathSlot index => "no path slot " ++ Decimal.ofNat index
  | .other text => text

/-- The wording of a fault. -/
def TransportFault.message : TransportFault → String
  | .rebuilding => "path rebuild in progress"
  | .noPath => "no usable path"
  | .noSwarm swarmKey => "no swarm cached for " ++ swarmKey
  | .emptySwarm swarmKey => "empty swarm for " ++ swarmKey
  | .pushCrashed => "push task failed"
  | .other text => text

/-- How messages name a scope that is gone. -/
def GoneScope.label : GoneScope → String
  | .scope owner => owner.label
  | .other text => text

namespace Error

/-- The wording of an error. -/
def message : Error → String
  | corruptUpdate id reason => "Corrupt update " ++ id ++ ": " ++ reason.message
  | staleChange variant key timestamp watermark =>
    "Stale change for " ++ variant ++ "/" ++ key ++ ": " ++ Decimal.ofInt timestamp.toInt ++
      " <= " ++ Decimal.ofInt watermark.toInt
  | transport fault => "Transport error: " ++ fault.message
  | scopeDestroyed scope => "Scope destroyed: " ++ scope.label
  | sessionClosed => "Session closed"
  | insufficientNodes needed available =>
    "Insufficient nodes: need " ++ Decimal.ofNat needed ++ ", have " ++ Decimal.ofNat available
  | storage text => "Storage error: " ++ text
  | data fault => "Serialization error: " ++ fault.message
  | sealing fault => "Crypto error: " ++ fault.message
  | device text => "IO error: " ++ text
  | invalidId fault => "Invalid identifier: " ++ fault.message
  | misuse fault => "Invalid operation: " ++ fault.message

/-- Whether the store failed: what is in memory stays valid and is written again later. -/
def isPersistenceFailure : Error → Bool
  | storage _ | device _ => true
  | _ => false

/-- Whether the operation may succeed when it is tried again. -/
def isRetryable : Error → Bool
  | transport _ => true
  | error => error.isPersistenceFailure

/-- The error of an operation on a scope that was removed. -/
def gone (scope : Scope) : Error :=
  scopeDestroyed (.scope scope)

end Error

/-! ### Identifiers in the terms of errors -/

/-- Reads an identity. -/
def Identity.read (text : String) : Except Error Identity :=
  (Identity.parse text).mapError fun fault => .invalidId (.identity fault)

/-- Reads the name of a group. -/
def GroupId.read (text : String) : Except Error GroupId :=
  (GroupId.parse text).mapError fun fault => .invalidId (.identity fault)

/-- Reads the name of a variant. -/
def Variant.read (name : String) : Except Error Variant :=
  match Variant.ofName? name with
  | some variant => .ok variant
  | none => .error (.invalidId (.unknownVariant name))

/-- Reads a node. -/
def Routing.Node.read (text : String) : Except Error Routing.Node :=
  (Routing.Node.parse text).mapError fun fault => .invalidId (.node fault)

/-- Refuses a variant that does not belong to the scope. -/
def Scope.check (scope : Scope) (variant : Variant) : Except Error Unit :=
  if scope.admits variant then .ok () else .error (.misuse (.wrongScope variant scope))

end ConfigReplica
