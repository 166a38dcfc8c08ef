import ConfigReplica.Session.Object

/-!
# Merging updates

Updates that arrived for an object are opened and merged one after the other. One that cannot be
opened or read is skipped and the rest are merged all the same. Afterwards the object is stored, and
the listener is told if a visible value changed.
-/

namespace ConfigReplica

/-- An update as it arrived. -/
structure Update where
  /-- The hash under which the network holds it. -/
  hash : String
  /-- The sealed push. -/
  data : Bytes
  deriving DecidableEq, Repr

/-- What became of a batch of updates. -/
structure MergeReport where
  merged : Nat := 0
  /-- The hashes of the updates that were skipped. -/
  skipped : List String := []
  /-- Whether a visible value changed. -/
  changed : Bool := false
  deriving DecidableEq, Repr

namespace SessionM

/-- Merges an update that was opened into the object of a handle. Gives whether a visible value
changed. -/
def mergeObject (handle : Handle) (id : String) (data : Bytes) : SessionM Bool := do
  let (changed, o) ← ofExcept ((← object handle).merge id data)
  setObject handle o
  pure changed

/-- Opens one update and merges it. -/
def mergeUpdate (handle : Handle) (variant : Variant) (scope : Scope) (report : MergeReport)
    (update : Update) : SessionM MergeReport := do
  checkOpen
  let skip : MergeReport := { report with skipped := report.skipped ++ [update.hash] }
  match (← session).ring.unwrap update.data variant.name scope.group? with
  | .error _ => pure skip
  | .ok data =>
    match (← object handle).merge update.hash data with
    | .ok (changed, o) =>
      setObject handle o
      pure { report with merged := report.merged + 1, changed := report.changed || changed }
    | .error (.corruptUpdate _ _) => pure skip
    | .error error => throw error

/-- Opens and merges a batch of updates. -/
def merge (variant : Variant) (scope : Scope) (updates : List Update) (time : Int64) :
    SessionM MergeReport := do
  checkPresent scope
  let handle ← find variant scope
  if (← object handle).destroyed then throw (.gone scope)
  checkPresent scope
  let report ← updates.foldlM (mergeUpdate handle variant scope) {}
  checkOpen
  if (← object handle).needsDump then persistObject handle time
  if report.changed then notify { variant, scope, time }
  pure report

end SessionM

end ConfigReplica
