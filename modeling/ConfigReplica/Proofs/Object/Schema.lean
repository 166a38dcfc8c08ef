import ConfigReplica.Proofs.Object.Acceptance

/-!
# Objects keep to their schema

Two gates lead into an object. Edits are held to the schema rule by rule, and updates
are checked as a whole, where they may also bring collections that are empty or not
declared. Both let in entries that conform and nothing else, and joining makes no
entries of its own. So whatever life an object has led, its state is as the schema of
its variant wants it (`State.Fits`).

The invariant has two halves. `Object.Reached.conforming` is about entries. What it
cannot see are collections without entries; that there are none is
`Object.Reached.dense`.

In collections that only grow, this is all that is needed for values to stay. Entries
are replaced by greater ones and never dropped (`Object.Later.covers`), and the
replacement is no removal either.
-/

namespace ConfigReplica.Config

/-- **A state that fits the schema** of a variant. -/
structure State.Fits (variant : Variant) (s : State) : Prop where
  /-- The collections are declared. -/
  declared : ∀ {name : String} {keys : Dict Entry}, s.collections[name]? = some keys →
    ∃ rule, variant.rule? name = some rule
  /-- Every collection has entries. -/
  nonempty : ∀ {name : String} {keys : Dict Entry}, s.collections[name]? = some keys → keys ≠ ∅
  /-- No key is empty. -/
  named : ∀ {collection key e}, s.find? collection key = some e → key ≠ ""
  /-- Where nothing may be removed, no entry is a removal. -/
  lasting : ∀ {collection key e}, s.find? collection key = some e →
    variant.rule? collection = some .addOnly → e.value ≠ none

/-- Entries that conform make a state fit, if there are no empty collections. -/
theorem State.Dense.fits {variant : Variant} {s : State} (dense : s.Dense)
    (entries : s.Every (Conforms variant)) : s.Fits variant where
  declared {name keys} found := by
    -- an entry of the collection conforms, so the collection is declared
    obtain ⟨key, mem⟩ : ∃ key, key ∈ keys := by
      by_contra none
      exact dense name keys found
        (Std.ExtTreeMap.eq_empty_iff_forall_not_mem.mpr (not_exists.mp none))
    obtain ⟨e, here⟩ := Option.isSome_iff_exists.mp (Std.ExtTreeMap.mem_iff_isSome_getElem?.mp mem)
    have inner : s.find? name key = some e := by
      rw [find?, collection, Std.ExtTreeMap.getD_eq_getD_getElem?, found]
      exact here
    obtain ⟨-, rule, declared, -⟩ := entries name key e inner
    exact ⟨rule, declared⟩
  nonempty {name keys} found := dense name keys found
  named found := by
    rintro rfl
    obtain ⟨named, -⟩ := entries _ _ _ found
    exact absurd named (by decide)
  lasting found addOnly removal := by
    obtain ⟨-, rule, declared, removable⟩ := entries _ _ _ found
    rw [addOnly, removable removal] at declared
    exact absurd declared (by decide)

namespace Object

variable {variant : Variant} {scope : Scope} {origin : UInt64} {o o' : Object} {h h' : History}
  {collection key : String}

/-! ### One event -/

/-- Whatever happens, entries are put into the state and nothing else is done to it. -/
theorem Step.exists_putAll (step : Step o h o' h') : ∃ ws, o'.state = o.state.putAll ws := by
  rcases step.state_cases with ⟨state, -⟩ | ⟨writes, state, -⟩ | ⟨s, state, -⟩
  · exact ⟨[], state⟩
  · exact ⟨writes, state⟩
  · exact ⟨s.entries, state⟩

/-- No event leaves a collection without entries. -/
theorem Step.dense (step : Step o h o' h') (inv : o.state.Dense) : o'.state.Dense := by
  obtain ⟨ws, state⟩ := step.exists_putAll
  rw [state]
  exact inv.putAll ws

/-- Events replace entries by greater ones only. -/
theorem Step.covers (step : Step o h o' h') {e : Entry} (held : o.state.Covers collection key e) :
    o'.state.Covers collection key e := by
  obtain ⟨ws, state⟩ := step.exists_putAll
  rw [state]
  exact held.putAll ws

/-! ### Whole lives -/

/-- No object has a collection without entries. -/
theorem Reached.dense (life : Reached variant scope origin o h) : o.state.Dense := by
  induction life with
  | start => exact State.dense_empty
  | next past step ih => exact step.dense ih

/-- The state of every object fits the schema of its variant. -/
theorem Reached.fits (life : Reached variant scope origin o h) : o.state.Fits variant := by
  have entries := life.conforming
  rw [life.variant_eq] at entries
  exact life.dense.fits entries

/-- What may come of an object with its history. -/
inductive Later (o : Object) (h : History) : Object → History → Prop
  | now : Later o h o h
  | next {p q : Object} {k l : History} (later : Later o h p k) (step : Step p k q l) :
      Later o h q l

/-- A life goes on. -/
theorem Reached.later (life : Reached variant scope origin o h) (later : Later o h o' h') :
    Reached variant scope origin o' h' := by
  induction later with
  | now => exact life
  | next _ step ih => exact .next ih step

/-- What is held stays held, or is replaced by something greater. -/
theorem Later.covers (later : Later o h o' h') {e : Entry}
    (held : o.state.Covers collection key e) : o'.state.Covers collection key e := by
  induction later with
  | now => exact held
  | next _ step ih => exact step.covers ih

/-- **Objects keep to their schema.** Whatever edits an object has gone through, done
or refused, whatever it was told to merge, and however often it was stored and loaded:
its state fits the schema of its variant. And a key of a collection that only grows,
once it has a value, has one in all that comes of the object. -/
theorem Reached.keeps_schema (life : Reached variant scope origin o h) :
    o.state.Fits variant ∧
    ∀ {o' : Object} {h' : History} {collection key : String}, Later o h o' h' →
      variant.rule? collection = some .addOnly → (o.state.get? collection key).isSome →
      (o'.state.get? collection key).isSome := by
  refine ⟨life.fits, ?_⟩
  intro o' h' collection key later addOnly live
  obtain ⟨json, shown⟩ := Option.isSome_iff_exists.mp live
  obtain ⟨e, found, -⟩ := Option.bind_eq_some_iff.mp shown
  -- the key still holds an entry, and none that a removal left behind
  obtain ⟨held, found', -⟩ := later.covers (State.covers_of_find? found)
  have value := (life.later later).fits.lasting found' addOnly
  unfold State.get?
  rw [found']
  exact Option.isSome_iff_ne_none.mpr value

/-- A group's key that was written is still there after an edit that tried to remove it
and one that tried to write under no key at all. -/
theorem Reached.keeps_schema_removal :
    ∃ (o : Object) (h : History) (o' : Object) (h' : History),
      Reached .groupKeys (.group ⟨Identity.groupTag, Vector.replicate 32 0⟩) 1 o h ∧
      o.state.Fits .groupKeys ∧ Later o h o' h' ∧
      (o'.state.get? Collection.keys "7").isSome := by
  have lives : ∃ (o : Object) (h : History) (o' : Object) (h' : History),
      Reached .groupKeys (.group ⟨Identity.groupTag, Vector.replicate 32 0⟩) 1 o h ∧
      Later o h o' h' ∧ (o.state.get? Collection.keys "7").isSome :=
    ⟨_, _, _, _, .next .start (.edit (.set Collection.keys "7" "1") 5 (.constant 0) rfl),
      .next (.next .now (.edit (.remove Collection.keys "7") 6 (.constant 0) rfl))
        (.edit (.set Collection.keys "" "1") 7 (.constant 0) rfl), rfl⟩
  obtain ⟨o, h, o', h', life, later, live⟩ := lives
  obtain ⟨fits, stays⟩ := life.keeps_schema
  exact ⟨o, h, o', h', life, fits, later, stays later (by decide) live⟩

end Object

end ConfigReplica.Config
