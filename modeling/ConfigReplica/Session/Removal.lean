import ConfigReplica.Session.Basic

/-!
# Removed groups

A group that was removed leaves a mark with the time of its removal. As long as the mark stands,
nothing of the group is read or written, so that updates still under way do not bring it back. Marks
are stored, and lapse when the retention is over.
-/

namespace ConfigReplica

namespace RemovalMarks

/-- Groups in rows. -/
def groupCodec : Codec GroupId :=
  Codec.imap (Codec.pair Codec.byte (Codec.exactly 32))
    (fun (tag, key) => ⟨{ tag, key }⟩)
    (fun group => (group.identity.tag, group.identity.key))

/-- Marks in rows. -/
def codec : Codec RemovalMarks :=
  Codec.map groupCodec Codec.int

/-- The key of the row with the marks. -/
def key : String := "removed_groups"

end RemovalMarks

namespace SessionM

/-- The earliest time of a mark that still stands. -/
def markCutoff : SessionM Int64 := do
  pure (cutoff (← now) (← session).settings.retention)

/-- The removal marks, which are read when they are first needed. -/
def marks : SessionM RemovalMarks := do
  match (← session).removed with
  | some marks => pure marks
  | none =>
    let stored ← onStore (StoreM.load RemovalMarks.codec .accountData RemovalMarks.key)
    let marks := stored.getD ∅
    modifySession fun s => { s with removed := some marks }
    pure marks

/-- Whether a scope is that of a removed group. -/
def isRemoved : Scope → SessionM Bool
  | .account => pure false
  | .group id => do
    let since ← markCutoff
    let marks ← marks
    pure (marks[id]?.any fun time => since ≤ time)

/-- Refuses the scope of a removed group. -/
def checkPresent (scope : Scope) : SessionM Unit := do
  if ← isRemoved scope then throw (.gone scope)

/-- Changes the removal marks, drops those that lapsed, and stores them. -/
def updateMarks (f : RemovalMarks → RemovalMarks) : SessionM Unit := do
  let before ← marks
  let since ← markCutoff
  let after := (f before).filter fun _ time => since ≤ time
  modifySession fun s => { s with removed := some after }
  onStore (StoreM.save RemovalMarks.codec .accountData RemovalMarks.key after)

/-- Takes back the removal of a group. -/
def rejoinGroup (group : GroupId) : SessionM Unit :=
  updateMarks fun marks => marks.erase group

end SessionM

end ConfigReplica
