import ConfigReplica.Proofs.Object.History

/-!
# What other replicas accept

Edits are held to the schema when they are made, updates when they arrive. The two
checks agree on collections, keys and removals: whatever life an object has led, its
entries conform to the schema of its variant (`Object.Reached.conforming`). They
differ in two points. Edits take any text for a value, and updates are refused unless
every value is well-formed JSON. And nothing bounds what an object holds, while frames
that are too long are not read.

`Object.accepted_iff` says that these are the only differences: a push is merged by
every replica of the variant exactly if it is short enough and all its values are
well-formed, and a dump is loaded exactly if it is short enough. Values are
well-formed as long as edits write nothing else, because merges bring no others.
-/

namespace ConfigReplica.Config

/-- The value of the entry, if it has one, is well-formed JSON. -/
def WellFormed (w : Write) : Prop :=
  ∀ json, w.2.2.value = some json → Json.check json = .ok ()

namespace State

variable {variant : Variant} {s : State}

/-- The check of an entry on arrival: it conforms and its value is well-formed. -/
theorem checkEntry_eq_ok_iff {w : Write} :
    checkEntry variant w = .ok () ↔ Conforms variant w ∧ WellFormed w := by
  obtain ⟨collection, key, e⟩ := w
  -- the checks are made in this order on arrival, and the edits are held to the first two
  unfold checkEntry Conforms WellFormed
  cases declared : variant.rule? collection with
  | none => simp [declared]
  | some rule =>
    cases empty : key.isEmpty with
    | true => simp [declared, empty]
    | false =>
      cases value : e.value with
      | none => cases rule <;> simp [declared, empty, value]
      | some json =>
        cases checked : Json.check json <;>
          simp [declared, empty, value, checked, Except.mapError]

/-- A list of entries passes if each of them does. -/
theorem forM_checkEntry_iff (ws : List Write) :
    forM ws (checkEntry variant) = .ok () ↔ ∀ w ∈ ws, checkEntry variant w = .ok () := by
  induction ws with
  | nil => simp [pure, Except.pure]
  | cons w ws ih =>
    rw [List.forM_cons, List.forall_mem_cons, ← ih]
    cases checkEntry variant w <;> simp [bind, Except.bind]

/-- The check of a state on arrival. -/
theorem check_eq_ok_iff :
    s.check variant = .ok () ↔ s.Every (Conforms variant) ∧ s.Every WellFormed := by
  unfold check
  rw [List.forM_eq_forM, forM_checkEntry_iff, every_iff_entries, every_iff_entries]
  simp only [checkEntry_eq_ok_iff]
  exact forall₂_and

end State

namespace Object

variable {variant : Variant} {scope : Scope} {origin : UInt64} {o o' : Object} {h h' : History}

/-! ### Entries conform, whatever happens -/

/-- **Every event keeps the entries in the schema.** -/
theorem Step.conforming (step : Step o h o' h') (inv : o.state.Every (Conforms o.variant)) :
    o'.state.Every (Conforms o'.variant) := by
  rw [step.variant_eq]
  rcases step.state_cases with ⟨state, -⟩ | ⟨writes, state, -, conforms⟩ | ⟨s, state, -, passed⟩
  · rw [state]
    exact inv
  · rw [state]
    exact inv.putAll (conforms inv)
  · have checked := State.check_eq_ok_iff.mp passed
    rw [state]
    exact inv.putAll (State.every_iff_entries.mp checked.1)

/-- The entries of every object conform. -/
theorem Reached.conforming (life : Reached variant scope origin o h) :
    o.state.Every (Conforms o.variant) := by
  induction life with
  | start => exact State.every_empty
  | next past step ih => exact step.conforming ih

/-! ### Values are well-formed if edits make them so -/

/-- What was written stays written. -/
theorem Step.written_subset (step : Step o h o' h') : h.written ⊆ h'.written := by
  rcases step.state_cases with ⟨-, written⟩ | ⟨writes, -, written, -⟩ | ⟨s, -, written, -⟩
  · rw [written]
    exact List.Subset.refl _
  · rw [written]
    exact List.subset_append_left _ _
  · rw [written]
    exact List.Subset.refl _

/-- Merges bring well-formed values only, so it is up to the edits. -/
theorem Step.wellFormed (step : Step o h o' h') (edits : ∀ w ∈ h'.written, WellFormed w)
    (inv : o.state.Every WellFormed) : o'.state.Every WellFormed := by
  rcases step.state_cases with ⟨state, -⟩ | ⟨writes, state, written, -⟩ | ⟨s, state, -, passed⟩
  · rw [state]
    exact inv
  · rw [written] at edits
    rw [state]
    exact inv.putAll fun w mem => edits w (List.mem_append_right _ mem)
  · have checked := State.check_eq_ok_iff.mp passed
    rw [state]
    exact inv.putAll (State.every_iff_entries.mp checked.2)

/-- The values of every object are well-formed if edits wrote no others. -/
theorem Reached.wellFormed (life : Reached variant scope origin o h)
    (edits : ∀ w ∈ h.written, WellFormed w) : o.state.Every WellFormed := by
  induction life with
  | start => exact State.every_empty
  | next past step ih =>
    exact step.wellFormed edits (ih fun w mem => edits w (step.written_subset mem))

/-! ### Acceptance -/

/-- A live object that does not remember an identifier accepts what it can read. -/
theorem merge_iff_readUpdate {p : Object} {id : String} {data : Bytes}
    (live : p.destroyed = false) (new : p.hasMerged id = false) :
    (∃ r, p.merge id data = .ok r) ↔ ∃ s, p.readUpdate data = .ok s := by
  unfold merge
  rw [live, new]
  cases p.readUpdate data <;> simp

/-- **Acceptance.** The push of an object is merged by another live object of its
variant, unless that remembers the identifier, exactly if it is short enough and all
values are well-formed. The dump is loaded, in any scope, exactly if it is short
enough. Values are well-formed if all that edits wrote here was. -/
theorem accepted_iff (life : Reached variant scope origin o h) :
    (∀ (p : Object) (id : String), p.variant = o.variant → p.destroyed = false →
      p.hasMerged id = false →
      ((∃ r, p.merge id o.push.data = .ok r) ↔
        o.pushFrame.length ≤ maxSize ∧ o.state.Every WellFormed)) ∧
    (∀ scope' : Scope, (∃ q, load o.variant scope' o.dump = .ok q) ↔
      o.dumpFrame.length ≤ maxSize) ∧
    ((∀ w ∈ h.written, WellFormed w) → o.state.Every WellFormed) := by
  refine ⟨?_, ?_, life.wellFormed⟩
  · intro p id same live new
    -- of the check on arrival only that of the values is left to ask for
    have checked : o.state.check o.variant = .ok () ↔ o.state.Every WellFormed := by
      rw [State.check_eq_ok_iff]
      exact and_iff_right life.conforming
    rw [merge_iff_readUpdate live new, readUpdate_push o p same, ← checked, ← not_lt]
    by_cases long : maxSize < o.pushFrame.length
    · simp [long]
    · cases o.state.check o.variant <;> simp [long]
  · intro scope'
    rw [load_dump, ← not_lt]
    by_cases long : maxSize < o.dumpFrame.length <;> simp [long]

/-- The push of an object that set a key to well-formed JSON is merged, and its dump
is loaded. -/
theorem accepted_iff_number :
    ∃ o h, Reached .contacts .account 1 o h ∧ o.state.Every WellFormed ∧
      (∃ r, (blank .contacts .account 2).merge "m" o.push.data = .ok r) ∧
      ∃ q, load o.variant .account o.dump = .ok q := by
  have lives : ∃ o h, Reached .contacts .account 1 o h ∧
      h.written = [("contacts", "x", ⟨5, 1, some "1"⟩)] ∧
      o.pushFrame.length ≤ maxSize ∧ o.dumpFrame.length ≤ maxSize :=
    -- one edit sets the key, and both frames are short
    ⟨_, _, .next .start (.edit (.set "contacts" "x" "1") 5 (.constant 0) rfl), rfl, by decide,
      by decide⟩
  obtain ⟨o, h, life, written, shortPush, shortDump⟩ := lives
  obtain ⟨merged, loaded, wellFormed⟩ := accepted_iff life
  have values : o.state.Every WellFormed := by
    refine wellFormed fun w mem => ?_
    rw [written] at mem
    obtain rfl := List.mem_singleton.mp mem
    rintro json ⟨⟩
    rfl
  exact ⟨o, h, life, values,
    (merged (blank .contacts .account 2) "m" life.variant_eq.symm rfl rfl).mpr ⟨shortPush, values⟩,
    (loaded .account).mpr shortDump⟩

/-- **A push that nobody merges.** An edit that sets a key to a text that is not JSON
succeeds, and an object that never heard of anything refuses the push after it. -/
theorem push_of_raw_text_refused :
    ∃ (step : Edited Bool) (h : History),
      Reached .contacts .account 1 step.object h ∧
      (blank .contacts .account 1).edit 5 (.constant 0)
        (EditM.set "contacts" "x" "raw") = .ok step ∧
      step.result.toOption = some true ∧
      (blank .contacts .account 2).merge "m" step.object.push.data =
        .error (.corruptUpdate "m" (.schema (.badValue "contacts" "x" .valueExpected))) := by
  have edits : ∃ (step : Edited Bool) (h : History), Reached .contacts .account 1 step.object h ∧
      (blank .contacts .account 1).edit 5 (.constant 0)
        (EditM.set "contacts" "x" "raw") = .ok step ∧
      step.result.toOption = some true ∧ step.object.pushFrame.length ≤ maxSize ∧
      step.object.state.check step.object.variant =
        .error (.badValue "contacts" "x" .valueExpected) :=
    ⟨_, _, .next .start (.edit (.set "contacts" "x" "raw") 5 (.constant 0) rfl), rfl, rfl,
      by decide, rfl⟩
  obtain ⟨step, h, life, ran, ended, short, fault⟩ := edits
  refine ⟨step, h, life, ran, ended, ?_⟩
  -- the frame is short enough, so the check of the values is what refuses it
  have read := readUpdate_push step.object (blank .contacts .account 2) life.variant_eq.symm
  rw [if_neg (not_lt.mpr short), fault] at read
  unfold merge
  rw [read]
  rfl

end Object

end ConfigReplica.Config
