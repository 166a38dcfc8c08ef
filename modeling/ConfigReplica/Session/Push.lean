import ConfigReplica.Session.Object

/-!
# Pushes

An object with local changes that no acknowledged push carried needs to be pushed to the destination
of its scope. A push is sealed, sent, and acknowledged with the hash under which the network holds
it.
-/

namespace ConfigReplica

/-- A sealed push that waits to be sent. -/
structure PendingPush where
  variant : Variant
  scope : Scope
  seqno : UInt64
  data : Bytes
  deriving DecidableEq

namespace SessionM

open Config

/-- The push of an object, if it needs one. -/
def pendingPush (scope : Scope) (variant : Variant) : SessionM (Option PendingPush) := do
  let o ← read variant scope
  if !o.dirty || o.destroyed then pure none
  else
    let push := o.push
    let data ← wrap push.data variant.name (← session).ring.user scope.group?
    pure (some { variant, scope, seqno := push.seqno, data })

/-- The pushes for a destination, in the order of their variants. -/
def pendingPushes (destination : Destination) : SessionM (List PendingPush) := do
  let scope := destination.scope
  let pushes ← scope.variants.mapM (pendingPush scope)
  pure (pushes.filterMap id)

/-- Takes note that a push is held under a hash, and stores the object. Gives whether the object is
clean. -/
def confirm (variant : Variant) (scope : Scope) (seqno : UInt64) (hash : String) :
    SessionM Bool := do
  checkPresent scope
  let handle ← find variant scope
  let o ← object handle
  if o.destroyed then throw (.gone scope)
  let o := o.confirm seqno hash
  setObject handle o
  persistObject handle (← now)
  pure !o.dirty

end SessionM

end ConfigReplica
