import ConfigReplica.Proofs.Object.History

/-!
# Acknowledged pushes

An object that is clean has told the network everything it wrote: either no edit
ever changed its state, or a push was acknowledged whose state covers every entry
that was written here (`Object.clean_only_if_acknowledged`). In return, an object
whose latest revision was acknowledged is clean.

Acknowledgements name a revision and nothing else, so the proof has to tie revisions
to what had been written when they were current. `Object.Accounted` does this:

* the object counts its revisions (`seqno`), and so does every push that was handed
  out (`numbered`, `past`). The counts have 64 bits and the history does not, which is
  why a clean object is only spoken of as long as the revisions fit;
* a push of the present revision covers all that was written (`told`). Edits that
  change nothing write nothing, and the others make the claim void by a new revision.
  Merges write nothing;
* the mark itself is down only if the present revision was acknowledged (`clean`) or
  there is none, and is down if it was (`settled`).

A merge changes the state and makes no revision. That is harmless: what it adds was
written elsewhere.
-/

namespace ConfigReplica.Config

namespace Object

/-- The state covers every entry that was written. -/
def CoversAll (s : State) (writes : List Write) : Prop :=
  ∀ w ∈ writes, s.Covers w.1 w.2.1 w.2.2

/-- What covers some writes covers more of them after these are put in. -/
theorem CoversAll.putAll {s : State} {writes : List Write} (h : CoversAll s writes)
    (more : List Write) : CoversAll (s.putAll more) (writes ++ more) := by
  intro w mem
  rcases List.mem_append.mp mem with mem | mem
  · exact (h w mem).putAll more
  · exact State.covers_putAll mem

variable {variant : Variant} {scope : Scope} {origin : UInt64} {o o' : Object} {h h' : History}

/-- **The account of revisions** that an object and its history keep together. -/
structure Accounted (o : Object) (h : History) : Prop where
  seqno : o.seqno = UInt64.ofNat h.revisions
  /-- What was written is still there, or something greater. -/
  written : CoversAll o.state h.written
  /-- Pushes carry the number of their revision. -/
  numbered : ∀ s ∈ h.sent, s.push.seqno = UInt64.ofNat s.revision
  past : ∀ s ∈ h.sent, s.revision ≤ h.revisions
  /-- Pushes of the present revision cover all that was written. -/
  told : ∀ s ∈ h.sent, s.revision = h.revisions → CoversAll s.frame.state h.written
  known : ∀ s ∈ h.acknowledged, s ∈ h.sent
  /-- A clean object was never changed, or its revision was acknowledged. -/
  clean : h.revisions < UInt64.size → o.dirty = false →
    h.revisions = 0 ∨ ∃ s ∈ h.acknowledged, s.revision = h.revisions
  /-- An object whose revision was acknowledged is clean. -/
  settled : ∀ s ∈ h.acknowledged, s.revision = h.revisions → o.dirty = false

/-- At the start nothing was written and nothing was told. -/
theorem Accounted.start : Accounted (blank variant scope origin) {} where
  seqno := rfl
  written := fun _ mem => absurd mem List.not_mem_nil
  numbered := fun _ mem => absurd mem List.not_mem_nil
  past := fun _ mem => absurd mem List.not_mem_nil
  told := fun _ mem => absurd mem List.not_mem_nil
  known := fun _ mem => absurd mem List.not_mem_nil
  clean := fun _ _ => .inl rfl
  settled := fun _ mem => absurd mem List.not_mem_nil

/-- Only the state grows. Merges do this, and so does everything that leaves revision
and mark alone. -/
theorem Accounted.grow (inv : Accounted o h) {merged : List (String × Bytes)}
    (seqno : o'.seqno = o.seqno) (dirty : o'.dirty = o.dirty)
    (grown : ∀ {collection key e}, o.state.Covers collection key e →
      o'.state.Covers collection key e) :
    Accounted o' { h with merged } where
  seqno := seqno.trans inv.seqno
  written := fun w mem => grown (inv.written w mem)
  numbered := inv.numbered
  past := inv.past
  told := inv.told
  known := inv.known
  clean := fun few down => inv.clean few (dirty.symm.trans down)
  settled := fun s mem latest => dirty.trans (inv.settled s mem latest)

/-- An edit that changes the state makes a new revision, which nobody was told of. -/
theorem Accounted.revise (inv : Accounted o h) {writes : List Write}
    (differs : o.state.putAll writes ≠ o.state) :
    Accounted (o.revise (o.state.putAll writes)) (h.edited writes true) := by
  rw [revise_of_ne differs]
  -- pushes and acknowledgements so far belong to revisions before this one
  have stale : ∀ s ∈ h.sent, s.revision ≠ (h.edited writes true).revisions := by
    intro s mem
    exact Nat.ne_of_lt (Nat.lt_succ_of_le (inv.past s mem))
  refine ⟨?_, inv.written.putAll writes, inv.numbered, ?_, ?_, inv.known, ?_, ?_⟩
  · show o.seqno + 1 = UInt64.ofNat (h.revisions + 1)
    rw [inv.seqno, UInt64.ofNat_add]
    rfl
  · exact fun s mem => Nat.le_succ_of_le (inv.past s mem)
  · exact fun s mem latest => absurd latest (stale s mem)
  · exact fun few down => absurd down (by simp)
  · exact fun s mem latest => absurd latest (stale s (inv.known s mem))

/-- An edit makes a new revision, or leaves everything as it was. -/
theorem Accounted.edit (inv : Accounted o h) {α : Type} {step : EditM α} (plan : EditM.Plan step)
    {now : Int64} {entropy : Entropy} {done : Edited α} (ran : o.edit now entropy step = .ok done) :
    Accounted done.object (h.edited (plan.writes (o.draft now entropy))
      (decide (done.object.state ≠ o.state))) := by
  have state := state_edit plan ran
  have object : done.object = o.revise (o.state.putAll (plan.writes (o.draft now entropy))) := by
    rw [edit_cases ran, plan.state_after]
    rfl
  rw [state, object]
  by_cases same : o.state.putAll (plan.writes (o.draft now entropy)) = o.state
  · -- nothing was written, so neither the object nor its history moved
    have nothing : plan.writes (o.draft now entropy) = [] :=
      plan.writes_eq_nil ((plan.state_after _).trans same)
    have unmoved : h.edited [] false = { h with merged := h.merged } := by simp [History.edited]
    rw [decide_eq_false (not_not.mpr same), revise_of_eq same, nothing, unmoved]
    exact inv.grow rfl rfl id
  · rw [decide_eq_true same]
    exact inv.revise same

/-- A push tells the present state. -/
theorem Accounted.push (inv : Accounted o h) : Accounted o (h.pushed o) := by
  -- the push that is handed out now carries the present state and number
  have cases : ∀ {s}, s ∈ (h.pushed o).sent →
      s ∈ h.sent ∨ s = ⟨o.push, o.pushFrame, h.revisions, rfl⟩ := by
    intro s mem
    rcases List.mem_append.mp mem with mem | mem
    · exact .inl mem
    · exact .inr (List.mem_singleton.mp mem)
  refine ⟨inv.seqno, inv.written, ?_, ?_, ?_, ?_, inv.clean, inv.settled⟩
  · intro s mem
    rcases cases mem with mem | rfl
    · exact inv.numbered s mem
    · exact inv.seqno
  · intro s mem
    rcases cases mem with mem | rfl
    · exact inv.past s mem
    · exact le_refl h.revisions
  · intro s mem latest
    rcases cases mem with mem | rfl
    · exact inv.told s mem latest
    · exact inv.written
  · exact fun s mem => List.mem_append_left _ (inv.known s mem)

/-- An acknowledgement, late or not, is counted for its own revision only. -/
theorem Accounted.confirm (inv : Accounted o h) {sent : Sent} (known : sent ∈ h.sent)
    (hash : String) : Accounted (o.confirm sent.push.seqno hash) (h.confirmed sent) := by
  have now : sent.push.seqno = o.seqno ↔ UInt64.ofNat sent.revision = UInt64.ofNat h.revisions := by
    rw [inv.numbered sent known, inv.seqno]
  have cases : ∀ {s}, s ∈ (h.confirmed sent).acknowledged → s ∈ h.acknowledged ∨ s = sent := by
    intro s mem
    rcases List.mem_append.mp mem with mem | mem
    · exact .inl mem
    · exact .inr (List.mem_singleton.mp mem)
  refine ⟨?_, ?_, inv.numbered, inv.past, inv.told, ?_, ?_, ?_⟩
  · rw [seqno_confirm]
    exact inv.seqno
  · rw [state_confirm]
    exact inv.written
  · intro s mem
    rcases cases mem with mem | rfl
    · exact inv.known s mem
    · exact known
  · intro few down
    change h.revisions < UInt64.size at few
    rw [dirty_confirm] at down
    by_cases same : sent.push.seqno = o.seqno
    · -- the counts agree in 64 bits, and neither has left them
      have counts := now.mp same
      have latest : sent.revision = h.revisions := by
        have before := inv.past sent known
        rw [← UInt64.toNat_inj, UInt64.toNat_ofNat_of_lt' (by omega),
          UInt64.toNat_ofNat_of_lt' few] at counts
        exact counts
      exact .inr ⟨sent, List.mem_append_right _ (List.mem_singleton.mpr rfl), latest⟩
    · -- the acknowledgement came late, so the object was clean before
      rw [if_neg same] at down
      rcases inv.clean few down with none | ⟨s, mem, latest⟩
      · exact .inl none
      · exact .inr ⟨s, List.mem_append_left _ mem, latest⟩
  · intro s mem latest
    rw [dirty_confirm]
    rcases cases mem with mem | rfl
    · rw [inv.settled s mem latest, ite_self]
    · exact if_pos (now.mpr (congrArg UInt64.ofNat latest))

/-- **Every event keeps the account.** -/
theorem Accounted.step (inv : Accounted o h) (step : Step o h o' h') : Accounted o' h' := by
  cases step with
  | edit plan now entropy ran => exact inv.edit plan ran
  | merge accepted =>
    rcases merge_cases accepted with ⟨-, rfl⟩ | ⟨s, -, rfl⟩
    · exact inv.grow rfl rfl id
    · exact inv.grow rfl rfl fun covered => covered.putAll s.entries
  | refuse refused => exact inv
  | remember memory => exact inv.grow rfl rfl id
  | push => exact inv.push
  | confirm known hash => exact inv.confirm known hash
  | reload loaded =>
    obtain rfl := reload_eq loaded
    exact inv.grow rfl rfl id

/-- The account is kept along every life. -/
theorem Reached.accounted (life : Reached variant scope origin o h) : Accounted o h := by
  induction life with
  | start => exact .start
  | next past step ih => exact ih.step step

/-! ### The theorem -/

/-- **No edit is acknowledged before it is pushed.** Whenever an object is clean, no
edit ever changed it, or some acknowledged push carried a state that covers every
entry written here. Conversely, an object is clean once the push of its latest
revision was acknowledged. Revisions are counted in 64 bits. -/
theorem clean_only_if_acknowledged (life : Reached variant scope origin o h) :
    (h.revisions < UInt64.size → o.dirty = false →
      h.revisions = 0 ∨
        ∃ s ∈ h.acknowledged, s.push.data = s.frame.pack ∧ CoversAll s.frame.state h.written) ∧
    (∀ s ∈ h.acknowledged, s.revision = h.revisions → o.dirty = false) := by
  have inv := life.accounted
  refine ⟨fun few down => ?_, inv.settled⟩
  rcases inv.clean few down with none | ⟨s, mem, latest⟩
  · exact .inl none
  · exact .inr ⟨s, mem, s.packed, inv.told s (inv.known s mem) latest⟩

/-- An object sets a key and is pushed, changes the key, and hears that the first push
arrived: it is not clean. It is once the push after the change is acknowledged, which
carries what was written. -/
theorem clean_only_if_acknowledged_twice :
    ∃ o p h h', Reached .contacts .account 1 o h ∧ Reached .contacts .account 1 p h' ∧
      h.acknowledged.length = 1 ∧ o.dirty = true ∧
      h'.revisions = 2 ∧ h'.acknowledged.length = 2 ∧ p.dirty = false ∧
      ∃ s ∈ h'.acknowledged, s.push.data = s.frame.pack ∧ CoversAll s.frame.state h'.written := by
  have lives : ∃ o p h h', Reached .contacts .account 1 o h ∧ Reached .contacts .account 1 p h' ∧
      h.acknowledged.length = 1 ∧ o.dirty = true ∧
      h'.revisions = 2 ∧ h'.acknowledged.length = 2 ∧
      ∃ s ∈ h'.acknowledged, s.revision = h'.revisions := by
    -- the first acknowledgement comes after the key was changed, and so it comes late
    have changed : Reached .contacts .account 1 _ _ :=
      .next (.next (.next .start (.edit (.set "contacts" "x" "1") 5 (.constant 0) rfl)) .push)
        (.edit (.set "contacts" "x" "2") 3 (.constant 0) rfl)
    have late := changed.next (.confirm (.head _) "first")
    have settled := (late.next .push).next (.confirm (.tail _ (.head _)) "second")
    exact ⟨_, _, _, _, late, settled, rfl, by decide, by decide, rfl, _, .tail _ (.head _),
      by decide⟩
  obtain ⟨o, p, h, h', late, settled, one, dirty, two, both, s, mem, latest⟩ := lives
  obtain ⟨carried, clean⟩ := clean_only_if_acknowledged settled
  have down := clean s mem latest
  refine ⟨o, p, h, h', late, settled, one, dirty, two, both, down, ?_⟩
  rcases carried (by rw [two]; decide) down with none | told
  · exact absurd none (by omega)
  · exact told

end Object

end ConfigReplica.Config
