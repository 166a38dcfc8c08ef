import ConfigReplica.Session.Removal

/-!
# The objects of a session

An object is loaded from the store, or made, when it is first asked for. It is edited in memory and
then stored; where storing fails the object stays as edited, and is stored again later. Objects of a
removed group are never stored.
-/

namespace ConfigReplica

/-- What a row of an object holds. -/
structure StoredObject where
  time : Int64
  dump : Bytes
  deriving DecidableEq, Repr

/-- Stored objects in rows. -/
def StoredObject.codec : Codec StoredObject :=
  Codec.imap (Codec.pair Codec.int Codec.bytes) (fun (time, dump) => { time, dump })
    (fun stored => (stored.time, stored.dump))

namespace SessionM

open Config

variable {α : Type}

/-- The stored object of a scope and variant, or a new one. -/
def loadObject (variant : Variant) (scope : Scope) : SessionM Object := do
  let stored ← onStore (StoreM.load StoredObject.codec .configs (scope.slotKey variant))
  let o ← match stored with
    | some stored => ofExcept (Object.load variant scope stored.dump)
    | none => do
      let origin ← drawWord
      pure { variant, scope, origin }
  pure (o.withMemory (← session).settings.memory)

/-- Gives an object a handle and puts it into its slot. -/
def adopt (variant : Variant) (scope : Scope) (o : Object) : SessionM Handle := do
  let handle := (← session).objects.size
  modifySession fun s => { s with
    objects := s.objects.push o
    slots := s.slots.insert scope ((s.slot scope).insert variant handle) }
  pure handle

/-- The handle of the object of a scope and variant. -/
def find (variant : Variant) (scope : Scope) : SessionM Handle := do
  checkOpen
  ofExcept (scope.check variant)
  match ((← session).slot scope)[variant]? with
  | some handle => pure handle
  | none =>
    modifySession fun s => { s with slots := s.slots.insert scope (s.slot scope) }
    let o ← loadObject variant scope
    adopt variant scope o

/-- The handles of the account's objects. -/
def accountObjects : SessionM (List Handle) :=
  Variant.ofAccount.mapM fun variant => find variant .account

/-- The object of a scope and variant. -/
def read (variant : Variant) (scope : Scope) : SessionM Object := do
  object (← find variant scope)

/-! ### Storing -/

/-- Stores the object of a handle. -/
def persistObject (handle : Handle) (time : Int64) : SessionM Unit := do
  let o ← object handle
  if o.destroyed then throw (.gone o.scope)
  checkPresent o.scope
  onStore (StoreM.save StoredObject.codec .configs (o.scope.slotKey o.variant)
    { time, dump := o.dump })
  setObject handle o.markDumped

/-- Stores the object of a scope and variant. -/
def persist (variant : Variant) (scope : Scope) (time : Int64) : SessionM Unit := do
  checkPresent scope
  persistObject (← find variant scope) time

/-- Stores the objects of a group. -/
def persistGroup (group : GroupId) (time : Int64) : SessionM Unit :=
  Variant.ofGroup.forM fun variant => persist variant (.group group) time

/-- Stores one object if it changed since it was stored. Adds to the number of objects stored, or
keeps the first error. -/
def persistIfNeeded (outcome : Except Error Nat) (handle : Handle) :
    SessionM (Except Error Nat) := do
  let o ← object handle
  if !o.needsDump || o.destroyed then pure outcome
  else
    match ← attempt (persistObject handle (← now)), outcome with
    | _, .error first => pure (.error first)
    | .ok (), .ok count => pure (.ok (count + 1))
    | .error error, .ok _ => pure (.error error)

/-- Stores every object that changed since it was stored. An error does not keep the others from
being stored. Gives how many were stored. -/
def persistAll : SessionM Nat := do
  checkOpen
  let outcome ← (← session).handles.foldlM persistIfNeeded (.ok 0)
  ofExcept outcome

/-! ### Editing -/

/-- Edits the object of a handle in memory. Gives whether the edit made a new revision, and how it
ended. -/
def editObject (handle : Handle) (time : Int64) (step : EditM α) :
    SessionM (Bool × Except Error α) := do
  let o ← object handle
  let edited ← ofExcept (o.edit time (← get).entropy step)
  setObject handle edited.object
  modify fun d => { d with entropy := edited.entropy }
  pure (edited.object.seqno != o.seqno, edited.result)

/-- Whether an outcome is that the scope was removed. -/
def isGone : Except Error α → Bool
  | .error (.scopeDestroyed _) => true
  | _ => false

/-- Edits an object, stores it and schedules a push, unless the edit changed nothing. Where it
cannot be stored the push is scheduled all the same, and storing is tried again before it. -/
def edit (variant : Variant) (scope : Scope) (step : EditM α) : SessionM (Except Error α) := do
  checkPresent scope
  let handle ← find variant scope
  let (changed, result) ← editObject handle (← now) step
  if changed then
    let stored ← attempt (persistObject handle (← now))
    if !isGone stored then schedulePush ((← session).destinationOf scope)
    ofExcept stored
  pure result

end SessionM

end ConfigReplica
