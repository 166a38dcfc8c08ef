import ConfigReplica.Proofs.Edit.Plan
import ConfigReplica.Proofs.Object.Frames

/-!
# The life of an object

An object starts without entries and lives on by edits, merges, pushes and
acknowledgements; now and then it is stored and loaded again. `Object.Step` is one
such event and `Object.Reached` a whole life.

Beside the object runs its `History`: what was written, which updates were
accepted, which pushes were handed out and which of them were acknowledged. No
operation looks at it. It is what statements about lives speak of.

* An edit is any planned step at any time, and counts also when it fails half
  way. It makes a new revision if it leaves another state behind.
* An update is any identifier with any bytes. One that is refused leaves no trace.
* An acknowledgement names a push that was handed out before. It may come late,
  more than once, or never.
-/

namespace ConfigReplica.Config

namespace Object

/-- An object without entries. -/
def blank (variant : Variant) (scope : Scope) (origin : UInt64) : Object :=
  { variant, scope, origin }

/-- A push that was handed out. -/
structure Sent where
  push : Push
  /-- What it tells other replicas. -/
  frame : PushFrame
  /-- How many revisions had been made before it. -/
  revision : Nat
  packed : push.data = frame.pack

/-- What happened to an object so far. -/
structure History where
  /-- The entries that edits wrote. -/
  written : List Write := []
  /-- The updates whose merge was accepted. -/
  merged : List (String × Bytes) := []
  sent : List Sent := []
  acknowledged : List Sent := []
  /-- How many edits changed the state. -/
  revisions : Nat := 0

namespace History

/-- The history after an edit. -/
def edited (h : History) (writes : List Write) (changed : Bool) : History :=
  { h with
    written := h.written ++ writes
    revisions := if changed then h.revisions + 1 else h.revisions }

/-- The history after a merge that was accepted. -/
def accepted (h : History) (id : String) (data : Bytes) : History :=
  { h with merged := h.merged ++ [(id, data)] }

/-- The history after a push. -/
def pushed (h : History) (o : Object) : History :=
  { h with sent := h.sent ++ [⟨o.push, o.pushFrame, h.revisions, rfl⟩] }

/-- The history after an acknowledgement. -/
def confirmed (h : History) (sent : Sent) : History :=
  { h with acknowledged := h.acknowledged ++ [sent] }

end History

/-- **One event** in the life of an object. -/
inductive Step : Object → History → Object → History → Prop
  | edit {o : Object} {h : History} {α : Type} {step : EditM α} (plan : EditM.Plan step)
      (now : Int64) (entropy : Entropy) {done : Edited α}
      (ran : o.edit now entropy step = .ok done) :
      Step o h done.object (h.edited (plan.writes (o.draft now entropy))
        (decide (done.object.state ≠ o.state)))
  | merge {o o' : Object} {h : History} {id : String} {data : Bytes} {changed : Bool}
      (accepted : o.merge id data = .ok (changed, o')) : Step o h o' (h.accepted id data)
  | refuse {o : Object} {h : History} {id : String} {data : Bytes} {error : Error}
      (refused : o.merge id data = .error error) : Step o h o h
  | remember {o : Object} {h : History} (memory : Nat) : Step o h (o.withMemory memory) h
  | push {o : Object} {h : History} : Step o h o (h.pushed o)
  | confirm {o : Object} {h : History} {sent : Sent} (known : sent ∈ h.sent) (hash : String) :
      Step o h (o.confirm sent.push.seqno hash) (h.confirmed sent)
  | reload {o o' : Object} {h : History}
      (loaded : Object.load o.variant o.scope o.dump = .ok o') : Step o h o' h

/-- **The lives of an object**: what it may come to, with its history. -/
inductive Reached (variant : Variant) (scope : Scope) (origin : UInt64) :
    Object → History → Prop
  | start : Reached variant scope origin (blank variant scope origin) {}
  | next {o o' : Object} {h h' : History} (past : Reached variant scope origin o h)
      (step : Step o h o' h') : Reached variant scope origin o' h'

/-! ### What single operations do -/

section Operations

variable {o o' : Object} {α : Type}

/-- The object after an edit holds the state that the edit left behind. -/
theorem edit_cases {now : Int64} {entropy : Entropy} {step : EditM α} {done : Edited α}
    (ran : o.edit now entropy step = .ok done) :
    done.object = o.revise (EditM.after step (o.draft now entropy)).state := by
  unfold Object.edit at ran
  split at ran
  · exact absurd ran (by simp)
  · unfold EditM.after
    cases left : step (o.draft now entropy) with
    | ok x d =>
      rw [left] at ran
      rw [← Except.ok.inj ran]
    | error error d =>
      rw [left] at ran
      rw [← Except.ok.inj ran]

/-- An edit of a live object succeeds with its step. -/
theorem edit_of_ok {now : Int64} {entropy : Entropy} {step : EditM α} {x : α} {d : Draft}
    (live : o.destroyed = false) (ran : step (o.draft now entropy) = .ok x d) :
    o.edit now entropy step = .ok ⟨o.revise d.state, d.entropy, .ok x⟩ := by
  rw [Object.edit, live, ran]
  rfl

@[simp] theorem state_revise (o : Object) (s : State) : (o.revise s).state = s := by
  unfold revise
  split
  · next same => exact same.symm
  · rfl

/-- A revision keeps the variant. -/
@[simp] theorem variant_revise (o : Object) (s : State) : (o.revise s).variant = o.variant := by
  unfold revise; split <;> rfl

/-- And the identifiers of merged updates. -/
@[simp] theorem mergedIds_revise (o : Object) (s : State) :
    (o.revise s).mergedIds = o.mergedIds := by
  unfold revise; split <;> rfl

/-- And that the object is live. -/
@[simp] theorem destroyed_revise (o : Object) (s : State) :
    (o.revise s).destroyed = o.destroyed := by
  unfold revise; split <;> rfl

/-- How an update is read depends on the variant alone. -/
theorem readUpdate_congr (same : o'.variant = o.variant) (data : Bytes) :
    o'.readUpdate data = o.readUpdate data := by
  unfold readUpdate
  rw [same]

/-- A state that differs makes a new revision, to be pushed. -/
theorem revise_of_ne {s : State} (differs : s ≠ o.state) :
    o.revise s = { o with state := s, seqno := o.seqno + 1, dirty := true, needsDump := true } :=
  if_neg differs

/-- A state that is the same makes none. -/
theorem revise_of_eq {s : State} (same : s = o.state) : o.revise s = o :=
  if_pos same

section Confirm

variable (o : Object) (seqno : UInt64) (hash : String)

/-- An acknowledgement keeps the variant. -/
@[simp] theorem variant_confirm : (o.confirm seqno hash).variant = o.variant := by
  unfold confirm; split <;> rfl

/-- And the scope. -/
@[simp] theorem scope_confirm : (o.confirm seqno hash).scope = o.scope := by
  unfold confirm; split <;> rfl

/-- And that the object is live. -/
@[simp] theorem destroyed_confirm : (o.confirm seqno hash).destroyed = o.destroyed := by
  unfold confirm; split <;> rfl

/-- And the state. -/
@[simp] theorem state_confirm : (o.confirm seqno hash).state = o.state := by
  unfold confirm; split <;> rfl

/-- And the number of the revision. -/
@[simp] theorem seqno_confirm : (o.confirm seqno hash).seqno = o.seqno := by
  unfold confirm; split <;> rfl

/-- And the identifiers of merged updates. -/
@[simp] theorem mergedIds_confirm : (o.confirm seqno hash).mergedIds = o.mergedIds := by
  unfold confirm; split <;> rfl

/-- Only an acknowledgement of the present revision makes an object clean. -/
theorem dirty_confirm :
    (o.confirm seqno hash).dirty = if seqno = o.seqno then false else o.dirty := by
  unfold confirm
  split
  · next later =>
    have other : seqno ≠ o.seqno := (UInt64.ne_of_lt later).symm
    rw [if_neg other]
  · rfl

end Confirm

/-- The state after a planned edit: the old one with the writes of the plan. -/
theorem state_edit {now : Int64} {entropy : Entropy} {step : EditM α} {done : Edited α}
    (plan : EditM.Plan step) (ran : o.edit now entropy step = .ok done) :
    done.object.state = o.state.putAll (plan.writes (o.draft now entropy)) := by
  rw [edit_cases ran, state_revise, plan.state_after]
  rfl

/-- An accepted merge changes nothing, if the update is remembered, or takes over
the state that the update carries. -/
theorem merge_cases {id : String} {data : Bytes} {changed : Bool}
    (accepted : o.merge id data = .ok (changed, o')) :
    (o.hasMerged id = true ∧ o' = o) ∨
      ∃ s, o.readUpdate data = .ok s ∧ o' = o.absorb id s := by
  -- a merge ends at a dead object, at a known identifier or at an update that cannot be read
  unfold merge at accepted
  split at accepted
  · exact absurd accepted (by simp)
  · split at accepted
    · next remembered =>
      exact .inl ⟨remembered, (Prod.mk.inj (Except.ok.inj accepted)).2.symm⟩
    · split at accepted
      · exact absurd accepted (by simp)
      · next s read => exact .inr ⟨s, read, (Prod.mk.inj (Except.ok.inj accepted)).2.symm⟩

/-- A live object takes over an update that it can read and does not remember. -/
theorem merge_of_read {id : String} {data : Bytes} {s : State} (live : o.destroyed = false)
    (new : o.hasMerged id = false) (read : o.readUpdate data = .ok s) :
    o.merge id data = .ok (o.state.joinReveals s, o.absorb id s) := by
  rw [Object.merge, live, new, read]
  rfl

/-- Loading the dump of an object gives it back without its passing marks. -/
theorem reload_eq {scope : Scope} (loaded : Object.load o.variant scope o.dump = .ok o') :
    o' = o.restored scope := by
  rw [load_dump] at loaded
  split at loaded
  · exact absurd loaded (by simp)
  · exact (Except.ok.inj loaded).symm

/-- At home, records are those of the state. -/
theorem records_of_home [Record α] (home : Record.home α = o.variant) :
    o.records α = o.state.records α := by
  have here : Record.checkHome α o.variant = .ok () := if_pos home
  rw [records, here]
  rfl

/-- And a single record is found there. -/
theorem record?_of_home [Record α] (home : Record.home α = o.variant) (key : String) :
    o.record? α key = o.state.record? α key := by
  have here : Record.checkHome α o.variant = .ok () := if_pos home
  rw [record?, here]
  rfl

/-- What is kept of a list was in it. -/
theorem mem_keepLast {count : Nat} {ids : List String} {id : String}
    (mem : id ∈ keepLast count ids) : id ∈ ids :=
  List.mem_of_mem_drop mem

end Operations

section Lives

variable {variant : Variant} {scope : Scope} {origin : UInt64} {o o' : Object} {h h' : History}

/-- An event keeps the variant. -/
theorem Step.variant_eq (step : Step o h o' h') : o'.variant = o.variant := by
  cases step with
  | edit plan now entropy ran => rw [edit_cases ran, variant_revise]
  | merge accepted =>
    rcases merge_cases accepted with ⟨-, rfl⟩ | ⟨s, -, rfl⟩ <;> rfl
  | refuse refused => rfl
  | remember memory => rfl
  | push => rfl
  | confirm known hash => exact variant_confirm _ _ _
  | reload loaded =>
    obtain rfl := reload_eq loaded
    rfl

/-- **What an event does to the state**: nothing, or an edit puts in what the history
notes as written, or a merge puts in the entries of an update that passed the check. -/
theorem Step.state_cases (step : Step o h o' h') :
    (o'.state = o.state ∧ h'.written = h.written) ∨
    (∃ writes, o'.state = o.state.putAll writes ∧ h'.written = h.written ++ writes ∧
      (o.state.Every (Conforms o.variant) → ∀ w ∈ writes, Conforms o.variant w)) ∨
    ∃ s : State, o'.state = o.state.putAll s.entries ∧ h'.written = h.written ∧
      s.check o.variant = .ok () := by
  cases step with
  -- an edit puts in what its plan writes, and a plan writes by the schema
  | edit plan now entropy ran =>
    have conforms := plan.conforms (d := o.draft now entropy)
    exact .inr (.inl ⟨_, state_edit plan ran, rfl, conforms⟩)
  -- an update was merged before, or its state passed the check and is put in
  | merge accepted =>
    rcases merge_cases accepted with ⟨-, rfl⟩ | ⟨s, read, rfl⟩
    · exact .inl ⟨rfl, rfl⟩
    · exact .inr (.inr ⟨s, rfl, rfl, check_of_readUpdate read⟩)
  | refuse refused => exact .inl ⟨rfl, rfl⟩
  | remember memory => exact .inl ⟨rfl, rfl⟩
  | push => exact .inl ⟨rfl, rfl⟩
  | confirm known hash => exact .inl ⟨state_confirm _ _ _, rfl⟩
  | reload loaded =>
    obtain rfl := reload_eq loaded
    exact .inl ⟨rfl, rfl⟩

/-- An object keeps its variant. -/
theorem Reached.variant_eq (life : Reached variant scope origin o h) : o.variant = variant := by
  induction life with
  | start => rfl
  | next past step ih => rw [step.variant_eq, ih]

end Lives

end Object

end ConfigReplica.Config
