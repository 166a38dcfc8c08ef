import ConfigReplica.Session.Basic

/-!
# Watermarks

Some changes may be made only in the order of their times. For every variant and key the session
keeps the time of the latest change that it accepted, the watermark; a change that is not later is
refused. Watermarks are stored for the next session, but a change is accepted even if they cannot be.
-/

namespace ConfigReplica.SessionM

/-- Watermarks in rows. -/
def watermarksCodec : Codec Watermarks :=
  Codec.dict Codec.int

/-- The watermarks of a variant, which are read when they are first needed. -/
def watermarks (variant : Variant) : SessionM Watermarks := do
  match (← session).watermarks[variant]? with
  | some marks => pure marks
  | none =>
    let stored ← onStore (StoreM.load watermarksCodec .changeWatermarks variant.name)
    let marks := stored.getD ∅
    modifySession fun s => { s with watermarks := s.watermarks.insert variant marks }
    pure marks

/-- Accepts a change that is later than all accepted for its variant and key. -/
def checkChange (variant : Variant) (key : String) (time : Int64) : SessionM Unit := do
  let marks ← watermarks variant
  match marks[key]? with
  | some watermark =>
    if time ≤ watermark then throw (.staleChange variant.name key time watermark)
  | none => pure ()
  let marks := marks.insert key time
  modifySession fun s => { s with watermarks := s.watermarks.insert variant marks }
  discard (attempt (onStore (StoreM.save watermarksCodec .changeWatermarks variant.name marks)))

/-- Whether a change is accepted. -/
def canChange (variant : Variant) (key : String) (time : Int64) : SessionM Bool := do
  match ← attempt (checkChange variant key time) with
  | .ok () => pure true
  | .error _ => pure false

end ConfigReplica.SessionM
