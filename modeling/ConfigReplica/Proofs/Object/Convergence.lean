import ConfigReplica.Proofs.Object.History

/-!
# Convergence

What an object holds depends only on the *set* of entries it has heard of: those
its own edits wrote, and those of the updates it accepted (`Object.History.heard`).
Order, repetition and the memory of merged identifiers make no difference, as long
as an identifier stands for one update (`Object.History.Consistent`).

`Object.converges` says it key by key: the object holds the greatest entry it has
heard of, and nothing where it has heard of nothing. Two objects that have heard of
the same entries therefore hold the same state and show the same hash.

The proof carries three facts along a life (`Object.Gathered`):

* `sums` — the state is the sum of the heard entries. Edits add their writes, and
  an update that is read adds its entries (`State.Sums.putAll`).
* `dense` — no collection is empty, so the sum determines the state
  (`State.Sums.unique`).
* `remembered` — an identifier is remembered only after its update was accepted.
  This is what makes the shortcut for remembered updates invisible: the entries of
  the update it passes over have been heard of already. Forgetting an identifier
  only weakens the fact.
-/

namespace ConfigReplica.Config

namespace Object

namespace History

/-- What was heard of: the entries that edits wrote and those of accepted updates. -/
def heard (h : History) (o : Object) : Set Write :=
  State.writes h.written ∪
    {w | ∃ id data s, (id, data) ∈ h.merged ∧ o.readUpdate data = .ok s ∧ w ∈ s.entries}

/-- An identifier stands for one update. -/
def Consistent (h : History) : Prop :=
  ∀ id data data', (id, data) ∈ h.merged → (id, data') ∈ h.merged → data = data'

end History

variable {variant : Variant} {scope scope' : Scope} {origin origin' : UInt64}
  {o o' : Object} {h h' : History}

/-- What was heard of depends on the variant of the object. -/
theorem heard_congr (same : o'.variant = o.variant) : h.heard o' = h.heard o := by
  unfold History.heard
  simp only [readUpdate_congr same]

/-- Edits are heard of. -/
theorem heard_edited (writes : List Write) (changed : Bool) :
    (h.edited writes changed).heard o = h.heard o ∪ State.writes writes := by
  ext w
  simp only [History.heard, History.edited, State.writes, Set.mem_union, Set.mem_ofPred_eq,
    List.mem_append]
  exact or_right_comm

/-- An update that is read is heard of. -/
theorem heard_accepted {id : String} {data : Bytes} {s : State}
    (read : o.readUpdate data = .ok s) :
    (h.accepted id data).heard o = h.heard o ∪ State.writes s.entries := by
  ext w
  simp only [History.heard, History.accepted, State.writes, Set.mem_union, Set.mem_ofPred_eq,
    List.mem_append, List.mem_singleton, Prod.mk.injEq]
  -- the entries of an update come from an earlier one, or from this one, which is read as here
  constructor
  · rintro (written | ⟨id', data', s', mem | ⟨rfl, rfl⟩, read', mem'⟩)
    · exact .inl (.inl written)
    · exact .inl (.inr ⟨id', data', s', mem, read', mem'⟩)
    · obtain rfl : s' = s := Except.ok.inj (read'.symm.trans read)
      exact .inr mem'
  · rintro ((written | ⟨id', data', s', mem, read', mem'⟩) | mem')
    · exact .inl written
    · exact .inr ⟨id', data', s', .inl mem, read', mem'⟩
    · exact .inr ⟨id, data, s, .inr ⟨rfl, rfl⟩, read, mem'⟩

/-- Hearing an update once more is no news. -/
theorem heard_accepted_again {id : String} {data : Bytes} (known : (id, data) ∈ h.merged) :
    (h.accepted id data).heard o = h.heard o := by
  ext w
  simp only [History.heard, History.accepted, Set.mem_union, Set.mem_ofPred_eq, List.mem_append,
    List.mem_singleton, Prod.mk.injEq]
  -- an update that was accepted twice brings the same entries twice
  constructor
  · rintro (written | ⟨id', data', s', mem | ⟨rfl, rfl⟩, read', mem'⟩)
    · exact .inl written
    · exact .inr ⟨id', data', s', mem, read', mem'⟩
    · exact .inr ⟨_, _, s', known, read', mem'⟩
  · rintro (written | ⟨id', data', s', mem, read', mem'⟩)
    · exact .inl written
    · exact .inr ⟨id', data', s', .inl mem, read', mem'⟩

/-! ### The invariant -/

/-- **What an object has gathered**: its state is the sum of what it has heard of. -/
structure Gathered (o : Object) (h : History) : Prop where
  /-- The state is the sum of the heard entries. -/
  sums : o.state.Sums (h.heard o)
  /-- No collection is empty. -/
  dense : o.state.Dense
  /-- Remembered updates were accepted. -/
  remembered : ∀ id ∈ o.mergedIds, ∃ data, (id, data) ∈ h.merged

/-- An object that was not used yet has heard of nothing. -/
theorem Gathered.start : Gathered (blank variant scope origin) {} where
  sums := by
    have nothing : History.heard {} (blank variant scope origin) = ∅ := by
      ext w
      simp [History.heard, State.writes]
    rw [nothing]
    exact State.sums_empty
  dense := State.dense_empty
  remembered := fun id mem => absurd mem List.not_mem_nil

/-- A consistent history was consistent before its last event. -/
theorem History.Consistent.before (consistent : h'.Consistent) (step : Step o h o' h') :
    h.Consistent := by
  cases step with
  | merge accepted =>
    intro id data data' mem mem'
    exact consistent id data data' (List.mem_append_left _ mem) (List.mem_append_left _ mem')
  | edit | refuse | remember | push | confirm | reload => exact consistent

/-- **Every event keeps the invariant.** -/
theorem Gathered.step (inv : Gathered o h) (step : Step o h o' h') (consistent : h'.Consistent) :
    Gathered o' h' := by
  have same := step.variant_eq
  cases step with
  | edit plan now entropy ran =>
    refine ⟨?_, ?_, ?_⟩
    · rw [heard_edited, heard_congr same, state_edit plan ran]
      exact inv.sums.putAll _
    · rw [state_edit plan ran]
      exact inv.dense.putAll _
    · rw [edit_cases ran, mergedIds_revise]
      exact inv.remembered
  | @merge _ _ id data changed accepted =>
    rcases merge_cases accepted with ⟨again, rfl⟩ | ⟨s, read, rfl⟩
    · -- the identifier is remembered, so the same bytes were accepted before
      obtain ⟨data', known⟩ := inv.remembered id (by simpa [hasMerged] using again)
      have bytes : data' = data :=
        consistent id data' data (List.mem_append_left _ known)
          (List.mem_append_right _ (List.mem_singleton.mpr rfl))
      subst bytes
      refine ⟨?_, inv.dense, fun id' mem => ?_⟩
      · rw [heard_accepted_again known]
        exact inv.sums
      · obtain ⟨data, mem⟩ := inv.remembered id' mem
        exact ⟨data, List.mem_append_left _ mem⟩
    · -- the update is read, and its entries are both put in and heard of
      refine ⟨?_, inv.dense.putAll _, fun id' mem => ?_⟩
      · rw [heard_congr same, heard_accepted read]
        exact inv.sums.putAll _
      · rcases List.mem_append.mp (mem_keepLast mem) with mem | mem
        · obtain ⟨data, mem⟩ := inv.remembered id' mem
          exact ⟨data, List.mem_append_left _ mem⟩
        · obtain rfl := List.mem_singleton.mp mem
          exact ⟨data, List.mem_append_right _ (List.mem_singleton.mpr rfl)⟩
  | refuse refused => exact inv
  | remember memory =>
    exact ⟨inv.sums, inv.dense, fun id mem => inv.remembered id (mem_keepLast mem)⟩
  | push => exact ⟨inv.sums, inv.dense, inv.remembered⟩
  | confirm known hash =>
    refine ⟨?_, ?_, ?_⟩
    · rw [heard_congr same, state_confirm]
      exact inv.sums
    · rw [state_confirm]
      exact inv.dense
    · rw [mergedIds_confirm]
      exact inv.remembered
  | reload loaded =>
    obtain rfl := reload_eq loaded
    exact ⟨inv.sums, inv.dense, inv.remembered⟩

/-- The invariant holds along every life. -/
theorem Reached.gathered (life : Reached variant scope origin o h) (consistent : h.Consistent) :
    Gathered o h := by
  induction life with
  | start => exact .start
  | next past step ih => exact (ih (consistent.before step)).step step consistent

/-! ### The theorem -/

/-- **Convergence.** Under every key an object holds the greatest of the entries it
has heard of, and nothing where it has heard of nothing. Objects of one variant that
have heard of the same entries have equal states and show equal hashes. -/
theorem converges (life : Reached variant scope origin o h) (consistent : h.Consistent) :
    (∀ collection key e, o.state.find? collection key = some e ↔
      IsGreatest {e | (collection, key, e) ∈ h.heard o} e) ∧
    (∀ collection key, o.state.find? collection key = none ↔
      ∀ e, (collection, key, e) ∉ h.heard o) ∧
    ∀ {scope' : Scope} {origin' : UInt64} {o' : Object} {h' : History},
      Reached variant scope' origin' o' h' → h'.Consistent → h.heard o = h'.heard o' →
      o.state = o'.state ∧ o.state.hash = o'.state.hash := by
  have inv := life.gathered consistent
  refine ⟨fun _ _ _ => inv.sums.find?_eq_some_iff, fun _ _ => inv.sums.find?_eq_none_iff, ?_⟩
  intro scope' origin' o' h' life' consistent' same
  -- both states are sums of the same entries
  have inv' := life'.gathered consistent'
  have sums' := inv'.sums
  rw [← same] at sums'
  have equal : o.state = o'.state := inv.sums.unique sums' inv.dense inv'.dense
  exact ⟨equal, congrArg State.hash equal⟩

/-- An object sets a key; another one is told of it twice, and holds the same state. -/
theorem converges_told_twice :
    ∃ o p h h', Reached .contacts .account 1 o h ∧ Reached .contacts .account 2 p h' ∧
      h.Consistent ∧ h'.Consistent ∧ h.heard o = h'.heard p ∧
      p.state.find? "contacts" "x" = some ⟨5, 1, some "1"⟩ ∧
      o.state = p.state ∧ o.state.hash = p.state.hash := by
  let e : Entry := ⟨5, 1, some "1"⟩
  -- one object writes the key
  have teller : ∃ o h, Reached .contacts .account 1 o h ∧ h.merged = [] ∧
      h.written = [("contacts", "x", e)] ∧ o.state.entries = [("contacts", "x", e)] ∧
      o.state.check o.variant = .ok () ∧ ¬ maxSize < o.pushFrame.length :=
    ⟨_, _, .next .start (.edit (.set "contacts" "x" "1") 5 (.constant 0) rfl), rfl, rfl, rfl, rfl,
      by decide⟩
  obtain ⟨o, h, life, merged, written, entries, fine, short⟩ := teller
  have read : (blank .contacts .account 2).readUpdate o.push.data = .ok o.state := by
    rw [readUpdate_push _ _ life.variant_eq.symm, if_neg short, fine]
  -- the other one merges the push of it twice
  have listener : ∃ p h', Reached .contacts .account 2 p h' ∧ h'.written = [] ∧
      h'.merged = [("m", o.push.data), ("m", o.push.data)] := by
    have once : (blank .contacts .account 2).merge "m" o.push.data =
        .ok (State.empty.joinReveals o.state, (blank .contacts .account 2).absorb "m" o.state) := by
      unfold merge
      rw [read]
      rfl
    exact ⟨_, _, .next (.next .start (.merge once)) (.merge rfl), rfl, rfl⟩
  obtain ⟨p, h', life', written', merged'⟩ := listener
  have consistent : h.Consistent := by simp [History.Consistent, merged]
  have consistent' : h'.Consistent := by
    simp only [History.Consistent, merged']
    grind
  have heard : h.heard o = {("contacts", "x", e)} := by
    ext w
    simp [History.heard, State.writes, written, merged]
  have heard' : h'.heard p = {("contacts", "x", e)} := by
    ext w
    rw [heard_congr (o := blank .contacts .account 2) life'.variant_eq]
    simp [History.heard, State.writes, written', merged', read, entries]
  have same : h.heard o = h'.heard p := heard.trans heard'.symm
  have found : p.state.find? "contacts" "x" = some e := by
    refine ((converges life' consistent').1 "contacts" "x" e).mpr ?_
    rw [heard']
    simp
  exact ⟨o, p, h, h', life, life', consistent, consistent', same, found,
    (converges life consistent).2.2 life' consistent' same⟩

end Object

end ConfigReplica.Config
