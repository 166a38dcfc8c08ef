import ConfigReplica.Proofs.Session.Confirming
import Mathlib.Data.List.Nodup

/-!
# Sending what waits

A network replies to each push with the hash under which it is held, or with an error
(`Replies`). What a flush has sent so far shows in the device (`Device.Progress`): the objects
of the pushes that were acknowledged are clean and stored, all others are what they were.
Loading objects is no progress, an acknowledgement is (`Device.Progress.loaded`,
`Device.Progress.acknowledged`). So the pushes of a scope are sent one after the other, each of
them once (`OnlineM.sendPushes_of_sends`), and those of several scopes likewise
(`OnlineM.sendAll_of_sends`).

An error ends neither, unless it is that of a closed session.
-/

namespace ConfigReplica

open Config SessionM

/-! ### The network -/

/-- The destination of a scope leads back to it. -/
theorem Session.scope_destinationOf (s : Session) (scope : Scope) :
    (s.destinationOf scope).scope = scope := by
  cases scope <;> rfl

/-- A call of the network: a message is stored in a namespace of a destination. -/
structure Call where
  destination : Destination
  space : Nat
  data : Bytes
  deriving DecidableEq

/-- The call that a push makes. -/
def PendingPush.call (push : PendingPush) (destination : Destination) : Call :=
  ⟨destination, push.variant.namespaceId, push.data⟩

/-- **A call tells of an object**: it was made for its push, at the destination of its scope. -/
def Call.Tells (call : Call) (d : Device) (scope : Scope) (variant : Variant) : Prop :=
  ∃ o push, d.Finds scope variant o ∧ PendingPush.Carries push d.session.ring o ∧
    call = push.call (d.session.destinationOf scope)

/-- The mark is told by no push. -/
theorem PendingPush.carries_markDumped {push : PendingPush} {ring : Seal.Keyring} {o : Object} :
    push.Carries ring o.markDumped ↔ push.Carries ring o :=
  ⟨fun carries => ⟨carries.variant, carries.scope, carries.seqno, carries.sealed⟩,
    fun carries => ⟨carries.variant, carries.scope, carries.seqno, carries.sealed⟩⟩

/-- How the network replies to the push of the object of each scope and variant: with the hash under
which it is held, or with an error. -/
abbrev Replies := Scope → Variant → Except Error String

namespace Replies

/-- A network that replies like this, and takes down the calls. -/
def carrier (replies : Replies) : Carrier (List Call) := fun destination push online =>
  let online := { online with network := online.network ++ [push.call destination] }
  match replies push.scope push.variant with
  | .ok hash => .ok hash online
  | .error error => .error error online

/-- No error is that of a closed session. -/
def Lasting (replies : Replies) : Prop :=
  ∀ scope variant, replies scope variant ≠ .error .sessionClosed

/-- Whether the push of an object succeeds. -/
def succeeds (replies : Replies) (slot : Scope × Variant) : Bool :=
  (replies slot.1 slot.2).isOk

/-- A report, with the pushes of some objects added. -/
def count (replies : Replies) (report : FlushReport) (slots : List (Scope × Variant)) :
    FlushReport where
  pushed := report.pushed + slots.countP replies.succeeds
  failed := report.failed + slots.countP fun slot => !replies.succeeds slot

variable {replies : Replies} {report : FlushReport} {slots others : List (Scope × Variant)}
  {slot : Scope × Variant}

@[simp] theorem count_nil : replies.count report [] = report := rfl

/-- One more push that succeeds. -/
theorem count_cons_of_ok (ok : replies.succeeds slot = true) :
    replies.count report (slot :: slots) =
      replies.count { report with pushed := report.pushed + 1 } slots := by
  simp only [count, List.countP_cons, ok, FlushReport.mk.injEq]
  exact ⟨by simp only [if_pos]; omega, by simp⟩

/-- One more push that fails. -/
theorem count_cons_of_error (error : replies.succeeds slot = false) :
    replies.count report (slot :: slots) =
      replies.count { report with failed := report.failed + 1 } slots := by
  simp only [count, List.countP_cons, error, FlushReport.mk.injEq]
  exact ⟨by simp, by simp only [Bool.not_false, if_pos]; omega⟩

/-- Pushes are counted one after the other. -/
theorem count_append :
    replies.count report (slots ++ others) = replies.count (replies.count report slots) others := by
  simp [count, Nat.add_assoc]

end Replies

namespace Device

variable {d d' d'' d₁ d₂ : Device} {scope other : Scope} {variant v : Variant} {handle : Handle}
  {o p : Object} {push : PendingPush}

/-- What waits in some scopes, in the order in which it is pushed. -/
def pendingIn (d : Device) (scopes : List Scope) : List (Scope × Variant) :=
  scopes.flatMap fun scope => (d.pending scope).map (scope, ·)

/-- What waits in the first scope comes first. -/
@[simp] theorem pendingIn_cons (d : Device) (scope : Scope) (scopes : List Scope) :
    d.pendingIn (scope :: scopes) = (d.pending scope).map (scope, ·) ++ d.pendingIn scopes :=
  List.flatMap_cons

/-- What waits in a scope waits in several, if it is among them. -/
theorem mem_pendingIn {scopes : List Scope} :
    (scope, variant) ∈ d.pendingIn scopes ↔ scope ∈ scopes ∧ variant ∈ d.pending scope := by
  simp only [pendingIn, List.mem_flatMap, List.mem_map, Prod.mk.injEq]
  constructor
  · rintro ⟨_, mem, _, waits, rfl, rfl⟩
    exact ⟨mem, waits⟩
  · rintro ⟨mem, waits⟩
    exact ⟨scope, mem, variant, waits, rfl, rfl⟩

/-- Nothing waits twice, if no scope comes twice. -/
theorem nodup_pendingIn (d : Device) {scopes : List Scope} (distinct : scopes.Nodup) :
    (d.pendingIn scopes).Nodup := by
  refine List.nodup_flatMap.mpr ⟨fun scope _ => ?_, ?_⟩
  · exact (d.nodup_pending scope).map fun _ _ same => (Prod.mk.inj same).2
  · refine distinct.imp fun {scope other} differs slot here there => ?_
    obtain ⟨_, -, rfl⟩ := List.mem_map.mp here
    obtain ⟨_, -, same⟩ := List.mem_map.mp there
    exact differs (Prod.mk.inj same).1.symm

/-! ### Progress -/

/-- A push carries what is found still, whatever was loaded or stored meanwhile. -/
theorem Becomes.carries {relation : Object → Object → Prop} {ring : Seal.Keyring}
    (becomes : d.Becomes relation scope variant d')
    (alike : ∀ {p q}, relation p q → push.Carries ring p → push.Carries ring q)
    (carried : ∃ o, d.Finds scope variant o ∧ push.Carries ring o) :
    ∃ o, d'.Finds scope variant o ∧ push.Carries ring o := by
  obtain ⟨o, finds, carries⟩ := carried
  obtain ⟨q, found⟩ := becomes.stays finds
  obtain ⟨p, finds', related⟩ := becomes.came found
  -- the origin is told by no push
  obtain ⟨origin, rfl⟩ := finds.unique finds'
  exact ⟨q, found, alike related ⟨carries.variant, carries.scope, carries.seqno, carries.sealed⟩⟩

/-- **How far a flush has come**: the pushes of some objects were acknowledged, and all other objects
are what they were. -/
structure Progress (replies : Replies) (d : Device) (acks : List (Scope × Variant))
    (d' : Device) : Prop where
  kept : ∀ {scope variant}, (scope, variant) ∉ acks → d.Becomes Eq scope variant d'
  settled : ∀ {scope variant}, (scope, variant) ∈ acks → ∃ hash,
    replies scope variant = .ok hash ∧
      d.Becomes (fun p q => q = p.settled hash) scope variant d' ∧ d'.Recorded scope variant d.clock
  rows : ∀ cell, (∀ slot ∈ acks, cell ≠ slot.1.cell slot.2) →
    d'.store.row? cell = d.store.row? cell
  ring : d'.session.ring = d.session.ring
  clock : d'.clock = d.clock

variable {replies : Replies} {acks : List (Scope × Variant)} {hash : String}

theorem Progress.refl (replies : Replies) (d : Device) : d.Progress replies [] d where
  kept _ := .refl d _ _
  settled mem := absurd mem List.not_mem_nil
  rows _ _ := rfl
  ring := rfl
  clock := rfl

/-- An object that is stored stays so while others are loaded. -/
theorem Recorded.loaded {time : Int64} (recorded : d.Recorded scope variant time)
    (loaded : Loaded d d') : d'.Recorded scope variant time := by
  obtain ⟨handle, placed, row⟩ := recorded
  obtain ⟨placed', same⟩ := loaded.placed placed
  refine ⟨handle, placed', ?_⟩
  rw [same, ← row]
  exact congrArg (fun rows => rows[_]?) loaded.rows

/-- Loading objects is no progress. -/
theorem Progress.loaded (progress : d.Progress replies acks d') (loaded : Loaded d' d'') :
    d.Progress replies acks d'' where
  kept other := (progress.kept other).trans loaded.becomes Eq.trans
  -- the row of an acknowledged object is the same, and so is the object
  settled mem := by
    obtain ⟨hash, ok, becomes, recorded⟩ := progress.settled mem
    exact ⟨hash, ok, becomes.trans loaded.becomes fun first second => second ▸ first,
      recorded.loaded loaded⟩
  rows cell other := by
    rw [← progress.rows cell other]
    exact congrArg (fun rows => rows[cell]?) loaded.rows
  ring := loaded.ring.trans progress.ring
  clock := loaded.clock.trans progress.clock

/-- An object that is stored stays so while another is acknowledged. -/
theorem Recorded.acknowledged {time : Int64} (recorded : d.Recorded other v time)
    (differs : ¬ (other = scope ∧ v = variant)) (acked : d.Acknowledged scope variant hash d') :
    d'.Recorded other v time := by
  obtain ⟨handle, placed, row⟩ := recorded
  have placed' := acked.placed placed
  obtain ⟨p, finds, rfl⟩ := (acked.others differs).came (.inl ⟨handle, placed', rfl⟩)
  refine ⟨handle, placed', ?_⟩
  rw [acked.rows _ fun same => differs (Scope.cell_inj same), finds.eq_of_placed placed, row]

/-- An acknowledgement is. -/
theorem Progress.acknowledged (progress : d.Progress replies acks d')
    (new : (scope, variant) ∉ acks) (ok : replies scope variant = .ok hash)
    (acked : d'.Acknowledged scope variant hash d'') :
    d.Progress replies (acks ++ [(scope, variant)]) d'' where
  -- an object that was acknowledged neither before nor now
  kept {other v} none := by
    obtain ⟨before, differs⟩ : (other, v) ∉ acks ∧ ¬ (other = scope ∧ v = variant) := by
      simpa using none
    exact (progress.kept before).trans (acked.others differs) Eq.trans
  settled {other v} mem := by
    -- acknowledged before, or the one that was acknowledged now
    rcases List.mem_append.mp mem with before | this
    · have differs : ¬ (other = scope ∧ v = variant) := by
        rintro ⟨rfl, rfl⟩
        exact new before
      obtain ⟨hash', ok', becomes, recorded⟩ := progress.settled before
      exact ⟨hash', ok', becomes.trans (acked.others differs) fun first second => second ▸ first,
        recorded.acknowledged differs acked⟩
    · obtain ⟨rfl, rfl⟩ := Prod.mk.inj (List.mem_singleton.mp this)
      refine ⟨hash, ok, (progress.kept new).trans acked.here fun first second => ?_, ?_⟩
      · rw [second, first]
      · rw [← progress.clock]
        exact acked.recorded
  rows cell other := by
    rw [acked.rows cell (other _ (List.mem_append_right _ (List.mem_singleton.mpr rfl)))]
    exact progress.rows cell fun slot mem => other slot (List.mem_append_left _ mem)
  ring := acked.ring.trans progress.ring
  clock := acked.clock.trans progress.clock

end Device

/-! ### Sending -/

namespace OnlineM

open Device

variable {d d₁ d₂ : Device} {scope : Scope} {variant : Variant} {replies : Replies}
  {acks : List (Scope × Variant)} {scopes : List Scope} {destination : Destination}
  {push : PendingPush} {log : List Call}

/-- A push that fails leaves nothing behind but the call. -/
theorem sendPush_of_error {error : Error} (destination : Destination) (log : List Call)
    (failed : replies push.scope push.variant = .error error)
    (d : Device) :
    sendPush replies.carrier destination push ⟨d, log⟩ =
      .error error ⟨d, log ++ [push.call destination]⟩ := by
  refine bind_of_error ?_
  unfold Replies.carrier
  rw [failed]

/-- A push that succeeds is acknowledged. -/
theorem sendPush_of_ok {hash : String} {clean : Bool} (destination : Destination)
    (log : List Call) (ok : replies push.scope push.variant = .ok hash)
    (isOpen : d.session.closed = false)
    (confirmed : confirm push.variant push.scope push.seqno hash d = .ok clean d₁) :
    sendPush replies.carrier destination push ⟨d, log⟩ =
      .ok () ⟨d₁, log ++ [push.call destination]⟩ := by
  have called : replies.carrier destination push ⟨d, log⟩ =
      .ok hash ⟨d, log ++ [push.call destination]⟩ := by
    unfold Replies.carrier
    rw [ok]
  refine (bind_of_ok called).trans ?_
  exact (bind_of_ok (onDevice_of_ok (checkOpen_of_open isOpen))).trans
    (discard_of_ok (onDevice_of_ok confirmed))

/-- **A push that fails** is counted, and the next one is sent. -/
theorem sendPushes_cons_of_error {error : Error} (lasting : replies.Lasting)
    (failed : replies push.scope push.variant = .error error) (pushes : List PendingPush)
    (report : FlushReport) (log : List Call) (d : Device) :
    sendPushes replies.carrier destination report (push :: pushes) ⟨d, log⟩ =
      sendPushes replies.carrier destination { report with failed := report.failed + 1 } pushes
        ⟨d, log ++ [push.call destination]⟩ := by
  refine (bind_of_ok (attempt_of_error (sendPush_of_error destination log failed d))).trans ?_
  -- only the error of a closed session ends it
  cases error <;> first | rfl | exact absurd failed (lasting _ _)

/-- **A push that succeeds** is counted, and the next one is sent from what it leaves behind. -/
theorem sendPushes_cons_of_ok {hash : String} {clean : Bool}
    (ok : replies push.scope push.variant = .ok hash) (isOpen : d.session.closed = false)
    (confirmed : confirm push.variant push.scope push.seqno hash d = .ok clean d₁)
    (pushes : List PendingPush) (report : FlushReport) (log : List Call) :
    sendPushes replies.carrier destination report (push :: pushes) ⟨d, log⟩ =
      sendPushes replies.carrier destination { report with pushed := report.pushed + 1 } pushes
        ⟨d₁, log ++ [push.call destination]⟩ :=
  bind_of_ok (attempt_of_ok (sendPush_of_ok destination log ok isOpen confirmed))

/-- **The pushes of a scope are sent**, each of them once. -/
theorem sendPushes_of_sends (destination : Destination) (lasting : replies.Lasting)
    (progress : d.Progress replies acks d₁) (sends : d₁.Sends scopes) (mem : scope ∈ scopes)
    {variants : List Variant} (distinct : variants.Nodup)
    (admitted : ∀ variant ∈ variants, scope.admits variant = true)
    (new : ∀ variant ∈ variants, (scope, variant) ∉ acks) {pushes : List PendingPush}
    (carry : List.Forall₂ (fun variant push => ∃ o, d₁.Finds scope variant o ∧
      push.Carries d.session.ring o) variants pushes) (report : FlushReport) (log : List Call) :
    ∃ d₂, sendPushes replies.carrier destination report pushes ⟨d₁, log⟩ =
        .ok (replies.count report (variants.map (scope, ·)), true)
          ⟨d₂, log ++ pushes.map (·.call destination)⟩ ∧
      d.Progress replies (acks ++ (variants.map (scope, ·)).filter replies.succeeds) d₂ ∧
      d₂.Sends scopes := by
  -- the induction is on the variants that wait, with their pushes beside them
  induction variants generalizing d₁ acks report log pushes with
  | nil =>
    cases carry
    exact ⟨d₁, by simp [sendPushes, pure, EStateM.pure], by simpa using progress, sends⟩
  | cons variant variants ih =>
    cases carry with
    | @cons _ push _ pushes carried carry =>
    rw [List.forall_mem_cons] at admitted new
    obtain ⟨here, distinct⟩ := List.nodup_cons.mp distinct
    obtain ⟨o, finds, carries⟩ := carried
    -- the push is for this scope and variant
    obtain ⟨hasVariant, hasScope, -⟩ := finds.fits sends.tidy
    have isVariant : push.variant = variant := carries.variant.trans hasVariant
    have isScope : push.scope = scope := carries.scope.trans hasScope
    rw [List.map_cons, List.map_cons, List.append_cons log]
    cases reply : replies scope variant with
    | error error =>
      have failed : replies push.scope push.variant = .error error := by
        rw [isScope, isVariant, reply]
      have fails : replies.succeeds (scope, variant) = false := by
        rw [Replies.succeeds, reply]
        rfl
      -- the call was made, and everything else is as it was
      rw [sendPushes_cons_of_error lasting failed, Replies.count_cons_of_error fails,
        List.filter_cons_of_neg (by simp [fails])]
      exact ih progress sends distinct admitted.2 new.2 carry _ _
    | ok hash =>
      obtain ⟨d', confirmed, acked, sends'⟩ := confirm_of_finds sends mem admitted.1 finds hash
      have ok : replies push.scope push.variant = .ok hash := by rw [isScope, isVariant, reply]
      have succeeds : replies.succeeds (scope, variant) = true := by
        rw [Replies.succeeds, reply]
        rfl
      rw [← isVariant, ← isScope, ← carries.seqno] at confirmed
      -- the pushes that are left carry other objects, which this acknowledgement did not touch
      have differs : ∀ v ∈ variants, v ≠ variant := by
        rintro v mem rfl
        exact here mem
      have new' : ∀ v ∈ variants, (scope, v) ∉ acks ++ [(scope, variant)] := by
        intro v mem
        simpa using ⟨new.2 v mem, differs v mem⟩
      have carry' := ((List.forall₂_and_left _ _).mpr ⟨differs, carry⟩).imp fun v push both =>
        (acked.others fun same => both.1 same.2).carries (fun same => same ▸ id) both.2
      rw [sendPushes_cons_of_ok ok sends.isOpen confirmed, Replies.count_cons_of_ok succeeds,
        List.filter_cons_of_pos succeeds, List.append_cons acks]
      exact ih (progress.acknowledged new.1 reply acked) sends' distinct admitted.2 new' carry' _ _

/-- **One scope is done with**: what waits there is sent, or the scope is passed over. -/
theorem sendAll_cons_of_sends (lasting : replies.Lasting) (progress : d.Progress replies acks d₁)
    (sends : d₁.Sends scopes) (mem : scope ∈ scopes) (new : ∀ variant, (scope, variant) ∉ acks)
    (report : FlushReport) (log : List Call) :
    ∃ calls d₂,
      (∀ rest, sendAll replies.carrier report (d.session.destinationOf scope :: rest) ⟨d₁, log⟩ =
        sendAll replies.carrier (replies.count report ((d.pending scope).map (scope, ·))) rest
          ⟨d₂, log ++ calls⟩) ∧
      d.Progress replies (acks ++ ((d.pending scope).map (scope, ·)).filter replies.succeeds) d₂ ∧
      d₂.Sends scopes ∧
      List.Forall₂ (fun slot call => call.Tells d slot.1 slot.2)
        ((d.pending scope).map (scope, ·)) calls := by
  let destination := d.session.destinationOf scope
  have hasScope : destination.scope = scope := d.session.scope_destinationOf scope
  -- nothing of this scope was sent yet
  have untouched (variant : Variant) : d.Becomes Eq scope variant d₁ := progress.kept (new variant)
  have same : d₁.pending scope = d.pending scope :=
    pending_congr (fun variant _ => untouched variant) fun same => by rw [same]
  have chain := (Operation.pendingPushes destination).chain sends.tidy
  rcases pendingPushes_cases sends.tidy sends.isOpen sends.works destination with
    ⟨pushes, d₂, ran, loaded, carry⟩ | ⟨error, d₂, failed, other, loaded, nothing⟩
  · -- the pushes were collected, and are sent from the device that collecting them left behind
    rw [stateAfter_of_ok ran] at chain
    rw [hasScope, same, progress.ring] at carry
    have carry₂ := carry.imp fun variant push carried =>
      loaded.becomes.carries (fun same => same ▸ id) carried
    obtain ⟨d₃, sent, progress₃, sends₃⟩ := sendPushes_of_sends destination lasting
      (progress.loaded loaded) (sends.chain chain trivial) mem (d.nodup_pending scope)
      (fun _ waits => (mem_pending.mp waits).2.1) (fun variant _ => new variant) carry₂ report log
    refine ⟨pushes.map (·.call destination), d₃, fun rest => ?_, progress₃, sends₃, ?_⟩
    · exact (bind_of_ok (attempt_of_ok (onDevice_of_ok ran))).trans (bind_of_ok sent)
    · rw [List.forall₂_map_left_iff, List.forall₂_map_right_iff]
      refine carry.imp fun variant push carried => ?_
      obtain ⟨o, finds, carries⟩ := carried
      obtain ⟨_, found, rfl⟩ := (untouched variant).came finds
      exact ⟨_, push, found, carries, rfl⟩
  · -- an object of the scope cannot be had, so nothing of it counts as waiting
    rw [stateAfter_of_error failed] at chain
    rw [hasScope, same] at nothing
    rw [nothing]
    refine ⟨[], d₂, fun rest => ?_, ?_, sends.chain chain trivial, .nil⟩
    · rw [List.append_nil]
      refine (bind_of_ok (attempt_of_error (onDevice_of_error failed))).trans ?_
      cases error <;> first | rfl | exact absurd rfl other
    · rw [List.map_nil, List.filter_nil, List.append_nil]
      exact progress.loaded loaded

/-- **What waits in the scopes is sent**, one scope after the other. -/
theorem sendAll_of_sends (lasting : replies.Lasting)
    (progress : d.Progress replies acks d₁) (sends : d₁.Sends scopes) {rest : List Scope}
    (among : rest ⊆ scopes) (distinct : rest.Nodup) (new : ∀ slot ∈ acks, slot.1 ∉ rest)
    (report : FlushReport) (log : List Call) :
    ∃ calls d₂, sendAll replies.carrier report (rest.map d.session.destinationOf) ⟨d₁, log⟩ =
        .ok (replies.count report (d.pendingIn rest)) ⟨d₂, log ++ calls⟩ ∧
      d.Progress replies (acks ++ (d.pendingIn rest).filter replies.succeeds) d₂ ∧
      List.Forall₂ (fun slot call => call.Tells d slot.1 slot.2) (d.pendingIn rest) calls := by
  induction rest generalizing d₁ acks report log with
  | nil =>
    refine ⟨[], d₁, ?_, by simpa [pendingIn] using progress, .nil⟩
    rw [List.append_nil]
    rfl
  -- what the first scope acknowledged is not in any of the others
  | cons scope rest ih =>
    obtain ⟨here, distinct⟩ := List.nodup_cons.mp distinct
    obtain ⟨mem, among⟩ := List.cons_subset.mp among
    obtain ⟨first, d₂, ran, progress₂, sends₂, tells⟩ := sendAll_cons_of_sends lasting progress
      sends mem (fun _ acked => new _ acked List.mem_cons_self) report log
    have new' : ∀ slot ∈ acks ++ ((d.pending scope).map (scope, ·)).filter replies.succeeds,
        slot.1 ∉ rest := by
      intro slot acked later
      rcases List.mem_append.mp acked with before | now
      · exact new slot before (List.mem_cons_of_mem _ later)
      · obtain ⟨variant, -, rfl⟩ := List.mem_map.mp (List.mem_of_mem_filter now)
        exact here later
    obtain ⟨calls, d₃, ran', progress₃, tells'⟩ := ih progress₂ sends₂ among distinct new'
      (replies.count report ((d.pending scope).map (scope, ·))) (log ++ first)
    rw [List.map_cons, pendingIn_cons, ran]
    refine ⟨first ++ calls, d₃, ?_, ?_, List.rel_append tells tells'⟩
    · rw [Replies.count_append, ← List.append_assoc, ran']
    · rwa [List.filter_append, ← List.append_assoc]

end OnlineM

end ConfigReplica
