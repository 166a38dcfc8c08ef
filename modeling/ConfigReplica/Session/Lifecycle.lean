import ConfigReplica.Config.Membership
import ConfigReplica.Session.Object

/-!
# Ends

The removal of a group ends its objects: those in memory take nothing more, and their rows are
deleted. Closing a session ends all its work but keeps what is stored; wiping it deletes that as
well.
-/

namespace ConfigReplica.SessionM

open Config

/-- Ends the object of a handle. -/
def destroyObject (handle : Handle) : SessionM Unit := do
  setObject handle (← object handle).destroy

/-- Deletes the row of an object. -/
def deleteRow (scope : Scope) (variant : Variant) : SessionM Unit :=
  onStore (StoreM.delete .configs (scope.slotKey variant))

/-- Removes a group with its objects and rows. -/
def removeGroup (group : GroupId) : SessionM Unit := do
  let scope := Scope.group group
  let time ← now
  updateMarks fun marks => marks.insert group time
  let slot := (← session).slot scope
  modifySession fun s => { s with slots := s.slots.erase scope }
  Variant.ofGroup.forM fun variant => do
    slot[variant]?.forM destroyObject
    deleteRow scope variant
  modifySchedule fun s => s.erase (.closedGroup group)

/-- Closes the session. -/
def close : SessionM Unit :=
  modifySession fun s => { s with closed := true }

/-- The groups that the account's records name, while the session is open. -/
def recordedGroups : SessionM (List GroupId) := do
  if (← session).closed then pure []
  else
    let o ← read .userGroups .account
    let entries ← ofExcept (o.records GroupEntry)
    pure (entries.map GroupEntry.group)

/-- Ends all objects in use and takes them out of their slots. Gives the groups that had slots. -/
def evictAll : SessionM (List GroupId) := do
  let s ← session
  s.handles.forM destroyObject
  modifySession fun s => { s with slots := ∅ }
  pure (s.slots.keys.filterMap Scope.group?)

/-- Closes the session and deletes all that is stored of the configuration. -/
def wipe : SessionM Unit := do
  let recorded ← recordedGroups
  close
  let loaded ← evictAll
  Variant.ofAccount.forM (deleteRow .account)
  (Std.ExtTreeSet.ofList (recorded ++ loaded)).toList.forM fun group =>
    Variant.ofGroup.forM (deleteRow (.group group))
  Variant.all.forM fun variant => onStore (StoreM.delete .changeWatermarks variant.name)
  onStore (StoreM.delete .accountData RemovalMarks.key)
  modifySession fun s => { s with removed := some ∅, watermarks := ∅ }
  modifySchedule fun s => { s with queue := ∅ }

end ConfigReplica.SessionM
