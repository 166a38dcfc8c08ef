import ConfigReplica.Proofs.Session.Pushes

/-!
# What waits to be pushed

A flush asks for the pushes of one scope after the other. Either every object of a scope
can be had (`Device.serves`), and there is one push for each object with local changes
(`Device.pending`); or a row of the scope cannot be read, and there are none
(`SessionM.pendingPushes_cases`). The flush goes on with the next scope then, since the
error is not that of a closed session (`SessionM.find_ne_closed`).

What can be had is computed from slots and rows (`Device.lookup`), but for the origins of
objects that are made anew: they are drawn when these are needed. It is the same on
devices of which one found what the other finds (`Device.Becomes`).
-/

namespace ConfigReplica

open Config SessionM

namespace Device

variable {d d' d'' : Device} {scope : Scope} {variant : Variant} {handle : Handle} {o p : Object}

/-! ### Looking up -/

/-- The object that the row of a scope and variant gives, if it can be read: one without entries, of
no origin yet, where there is no row. -/
def loads? (d : Device) (scope : Scope) (variant : Variant) : Option Object :=
  match d.store.row? (scope.cell variant) with
  | none => some ((Object.blank variant scope 0).withMemory d.session.settings.memory)
  | some bytes =>
    match StoredObject.codec.decode bytes with
    | .error _ => none
    | .ok stored =>
      match Object.load variant scope stored.dump with
      | .error _ => none
      | .ok o => some (o.withMemory d.session.settings.memory)

/-- The object of a scope and variant, where it can be had: the one in its slot, or the one that its
row gives. -/
def lookup (d : Device) (scope : Scope) (variant : Variant) : Option Object :=
  match (d.session.slot scope)[variant]? with
  | some handle => some (d.session.object handle)
  | none => d.loads? scope variant

/-- What is looked up where a slot has a handle. -/
theorem lookup_of_placed (placed : d.Placed scope variant handle) :
    d.lookup scope variant = some (d.session.object handle) := by
  unfold Placed at placed
  rw [lookup, placed]

/-- What is looked up where a slot is free. -/
theorem lookup_of_free (free : (d.session.slot scope)[variant]? = none) :
    d.lookup scope variant = d.loads? scope variant := by
  rw [lookup, free]

/-- What the row gives can be loaded. -/
theorem loads_of_loads? (given : d.loads? scope variant = some o) : d.Loads scope variant o := by
  unfold loads? at given
  unfold Loads
  -- without a row the object is made, and any origin is as good
  cases row : d.store.row? (scope.cell variant) with
  | none =>
    rw [row] at given
    exact ⟨0, (Option.some.inj given).symm⟩
  | some bytes =>
    rw [row] at given
    dsimp only at given
    split at given
    · cases given
    · next stored decoded =>
      split at given
      · cases given
      · next p loaded => exact ⟨stored, p, decoded, loaded, (Option.some.inj given).symm⟩

/-- What can be loaded is what the row gives, but for the origin. -/
theorem loads?_of_loads (loads : d.Loads scope variant o) :
    ∃ origin, d.loads? scope variant = some { o with origin } := by
  unfold Loads at loads
  unfold loads?
  cases row : d.store.row? (scope.cell variant) with
  | none =>
    rw [row] at loads
    obtain ⟨origin, rfl⟩ := loads
    exact ⟨0, rfl⟩
  | some bytes =>
    rw [row] at loads
    obtain ⟨stored, p, decoded, loaded, rfl⟩ := loads
    simp only [decoded, loaded]
    exact ⟨_, rfl⟩

/-- What is looked up can be found. -/
theorem finds_of_lookup (found : d.lookup scope variant = some o) : d.Finds scope variant o := by
  cases slot : (d.session.slot scope)[variant]? with
  | some handle =>
    rw [lookup_of_placed slot] at found
    exact .inl ⟨handle, slot, Option.some.inj found⟩
  | none =>
    rw [lookup_of_free slot] at found
    exact .inr ⟨slot, loads_of_loads? found⟩

/-- What is found is what is looked up, but for the origin of an object that is made. -/
theorem lookup_of_finds (finds : d.Finds scope variant o) :
    ∃ origin, d.lookup scope variant = some { o with origin } := by
  rcases finds with ⟨handle, placed, rfl⟩ | ⟨free, loads⟩
  · exact ⟨_, lookup_of_placed placed⟩
  · rw [lookup_of_free free]
    exact loads?_of_loads loads

/-- Whether the object of a scope and variant has local changes. -/
def waits (d : Device) (scope : Scope) (variant : Variant) : Bool :=
  (d.lookup scope variant).any Object.dirty

/-- Whether every object of a scope can be had. -/
def serves (d : Device) (scope : Scope) : Bool :=
  scope.variants.all fun variant => (d.lookup scope variant).isSome

/-- The variants of a scope that wait to be pushed, in the order in which they are: those with local
changes, if every object of the scope can be had. -/
def pending (d : Device) (scope : Scope) : List Variant :=
  if d.serves scope then scope.variants.filter (d.waits scope) else []

/-- Whether an object waits can be told from what is found. -/
theorem waits_of_finds (finds : d.Finds scope variant o) : d.waits scope variant = o.dirty := by
  obtain ⟨origin, found⟩ := lookup_of_finds finds
  rw [waits, found]
  rfl

/-- What waits in a scope, one by one. -/
theorem mem_pending : variant ∈ d.pending scope ↔
    d.serves scope = true ∧ scope.admits variant = true ∧ d.waits scope variant = true := by
  rw [pending]
  split
  · next serves => simp [serves, Scope.mem_variants]
  · next missing => simp [missing]

/-- No variant waits twice. -/
theorem nodup_pending (d : Device) (scope : Scope) : (d.pending scope).Nodup := by
  have distinct : scope.variants.Nodup := by
    cases scope with
    | account => exact (by decide : Variant.ofAccount.Nodup)
    | group => exact (by decide : Variant.ofGroup.Nodup)
  rw [pending]
  split
  · exact distinct.filter _
  · exact List.nodup_nil

/-- A scope serves if all of its objects can be found. -/
theorem serves_iff : d.serves scope = true ↔
    ∀ v, scope.admits v = true → ∃ p, d.Finds scope v p := by
  simp only [serves, List.all_eq_true, Option.isSome_iff_exists, Scope.mem_variants]
  refine forall₂_congr fun v _ => ⟨?_, ?_⟩
  · rintro ⟨p, found⟩
    exact ⟨p, finds_of_lookup found⟩
  · rintro ⟨p, finds⟩
    obtain ⟨origin, found⟩ := lookup_of_finds finds
    exact ⟨_, found⟩

/-- An object in its slot is the one that is found. -/
theorem Finds.eq_of_placed (finds : d.Finds scope variant o)
    (placed : d.Placed scope variant handle) : o = d.session.object handle := by
  rcases finds with ⟨other, here, rfl⟩ | ⟨free, -⟩
  · rw [Option.some.inj (here.symm.trans placed)]
  · cases placed.symm.trans free

/-- Nothing is drawn for an object with local changes, since it is not made anew. -/
theorem Finds.eq_of_dirty (first : d.Finds scope variant o) (second : d.Finds scope variant p)
    (dirty : o.dirty = true) : p = o := by
  -- an object in memory is one; a row gives one object, and a new one has no changes
  rcases first with ⟨handle, placed, rfl⟩ | ⟨free, loads⟩
  · exact second.eq_of_placed placed
  · rcases second with ⟨handle, placed, -⟩ | ⟨-, loads'⟩
    · cases placed.symm.trans free
    · unfold Loads at loads loads'
      cases row : d.store.row? (scope.cell variant) with
      | none =>
        rw [row] at loads
        obtain ⟨origin, rfl⟩ := loads
        cases dirty
      | some bytes =>
        rw [row] at loads loads'
        obtain ⟨stored, p, decoded, loaded, rfl⟩ := loads
        obtain ⟨stored', p', decoded', loaded', rfl⟩ := loads'
        cases decoded.symm.trans decoded'
        cases loaded.symm.trans loaded'
        rfl

/-! ### What objects become -/

/-- **What becomes of an object**: what is found for a scope and variant came of what was found
there, and there is still something to be found. -/
structure Becomes (d : Device) (relation : Object → Object → Prop) (scope : Scope)
    (variant : Variant) (d' : Device) : Prop where
  came : ∀ {q}, d'.Finds scope variant q → ∃ p, d.Finds scope variant p ∧ relation p q
  stays : ∀ {p}, d.Finds scope variant p → ∃ q, d'.Finds scope variant q

section Becomes

variable {relation other : Object → Object → Prop}

theorem Becomes.refl (d : Device) (scope : Scope) (variant : Variant) :
    d.Becomes Eq scope variant d :=
  ⟨fun finds => ⟨_, finds, rfl⟩, fun finds => ⟨_, finds⟩⟩

theorem Becomes.trans {composite : Object → Object → Prop}
    (first : d.Becomes relation scope variant d') (second : d'.Becomes other scope variant d'')
    (compose : ∀ {p m q}, relation p m → other m q → composite p q) :
    d.Becomes composite scope variant d'' where
  came finds := by
    obtain ⟨m, found, later⟩ := second.came finds
    obtain ⟨p, found, sooner⟩ := first.came found
    exact ⟨p, found, compose sooner later⟩
  stays finds := by
    obtain ⟨m, found⟩ := first.stays finds
    exact second.stays found

/-- Where the same is found, everything is what it was. -/
theorem becomes_of_iff
    (same : ∀ {o}, d'.Finds scope variant o ↔ d.Finds scope variant o) :
    d.Becomes Eq scope variant d' :=
  ⟨fun finds => ⟨_, same.mp finds, rfl⟩, fun finds => ⟨_, same.mpr finds⟩⟩

/-- Loading objects leaves what is found as it is. -/
theorem Loaded.becomes (loaded : Loaded d d') : d.Becomes Eq scope variant d' where
  came finds := ⟨_, loaded.finds finds, rfl⟩
  stays finds := by
    obtain ⟨origin, found⟩ := loaded.found finds
    exact ⟨_, found⟩

/-- What waits does not depend on more than what is found. -/
theorem Becomes.waits_eq (becomes : d.Becomes relation scope variant d')
    (dirty : ∀ {p q}, relation p q → q.dirty = p.dirty) :
    d'.waits scope variant = d.waits scope variant ∧
      (d'.lookup scope variant).isSome = (d.lookup scope variant).isSome := by
  -- if something is found now it came of what was found; if nothing is, nothing was
  cases now : d'.lookup scope variant with
  | some q =>
    obtain ⟨p, found, related⟩ := becomes.came (finds_of_lookup now)
    obtain ⟨origin, before⟩ := lookup_of_finds found
    rw [waits_of_finds (finds_of_lookup now), waits_of_finds found, before]
    exact ⟨dirty related, rfl⟩
  | none =>
    have before : d.lookup scope variant = none := by
      cases before : d.lookup scope variant with
      | none => rfl
      | some p =>
        obtain ⟨q, found⟩ := becomes.stays (finds_of_lookup before)
        obtain ⟨origin, still⟩ := lookup_of_finds found
        cases now.symm.trans still
    rw [waits, waits, now, before]
    exact ⟨rfl, rfl⟩

/-- The same waits in a scope where its objects became others with the same mark of changes. -/
theorem pending_congr
    (becomes : ∀ variant ∈ scope.variants, d.Becomes relation scope variant d')
    (dirty : ∀ {p q}, relation p q → q.dirty = p.dirty) : d'.pending scope = d.pending scope := by
  have serves : d'.serves scope = d.serves scope := by
    unfold serves
    rw [Bool.eq_iff_iff, List.all_eq_true, List.all_eq_true]
    refine forall₂_congr fun variant mem => ?_
    rw [((becomes variant mem).waits_eq dirty).2]
  have waits : scope.variants.filter (d'.waits scope) = scope.variants.filter (d.waits scope) :=
    List.filter_congr fun variant mem => ((becomes variant mem).waits_eq dirty).1
  rw [pending, pending, serves, waits]

end Becomes

end Device

/-! ### Errors of an open session -/

/-- The action does not fail in the way in which actions of a closed session do. -/
def StaysOpen {σ α : Type} (action : EStateM Error σ α) : Prop :=
  ∀ s s', action s ≠ .error .sessionClosed s'

namespace StaysOpen

variable {σ α β : Type}

/-- Two actions that do not fail so, one after the other. -/
theorem bind {first : EStateM Error σ α} {next : α → EStateM Error σ β} (opens : StaysOpen first)
    (goesOn : ∀ x, StaysOpen (next x)) : StaysOpen (first >>= next) := by
  intro s s' failed
  cases ran : first s with
  | ok x s₁ =>
    rw [bind_of_ok ran] at failed
    exact goesOn x s₁ s' failed
  | error error s₁ =>
    cases (bind_of_error ran).symm.trans failed
    exact opens s _ ran

theorem ofExcept {outcome : Except Error α} (other : outcome ≠ .error .sessionClosed) :
    StaysOpen (SessionM.ofExcept outcome) := by
  intro s s' failed
  cases outcome with
  | ok x => cases failed
  | error error =>
    cases failed
    exact other rfl

/-- What the store does, if the store does not fail so. -/
theorem onStore {action : StoreM α} (opens : StaysOpen action) :
    StaysOpen (SessionM.onStore action) := by
  intro d d' failed
  unfold SessionM.onStore at failed
  cases ran : action d.store with
  | ok x store =>
    rw [ran] at failed
    cases failed
  | error error store =>
    rw [ran] at failed
    cases failed
    exact opens _ _ ran

/-- Neither the store nor a row that cannot be read end a session. -/
theorem load (codec : Codec α) (table : Table) (key : String) :
    StaysOpen (StoreM.load codec table key) := by
  -- the store fails with an error of its own, and so does a row that cannot be decoded
  refine bind (fun s s' failed => ?_) fun row => ?_
  · rw [StoreM.get?_eq] at failed
    split at failed <;> cases failed
  · cases row with
    | none => exact fun _ _ => nofun
    | some bytes =>
      dsimp only
      cases codec.decode bytes <;> exact fun _ _ => nofun

/-- Nor does loading an object fail so. -/
theorem loadObject (variant : Variant) (scope : Scope) :
    StaysOpen (SessionM.loadObject variant scope) := by
  refine (onStore (load _ _ _)).bind fun stored => ?_
  cases stored with
  | none => exact fun _ _ => nofun
  | some stored =>
    refine (ofExcept fun failed => ?_).bind fun o => fun _ _ => nofun
    unfold Object.load at failed
    split at failed
    · cases failed
    · split at failed
      · cases failed
      · split at failed <;> cases failed

end StaysOpen

namespace SessionM

open Device

variable {d d' : Device} {scope : Scope} {variant : Variant}

/-- A lookup in an open session does not fail as in a closed one. -/
theorem find_ne_closed (isOpen : d.session.closed = false) :
    find variant scope d ≠ .error .sessionClosed d' := by
  -- a variant that the scope has no place for is another error
  have checked : StaysOpen (ofExcept (scope.check variant)) := by
    refine .ofExcept fun failed => ?_
    unfold Scope.check at failed
    split at failed <;> cases failed
  unfold find
  rw [bind_of_ok (checkOpen_of_open isOpen)]
  refine checked.bind (fun _ => ?_) d d'
  refine StaysOpen.bind (fun _ _ => nofun) fun s => ?_
  split
  · exact fun _ _ => nofun
  · refine StaysOpen.bind (fun _ _ => nofun) fun _ => ?_
    exact (StaysOpen.loadObject variant scope).bind fun o => fun _ _ => nofun

/-! ### The pushes of a scope -/

/-- Looking for the push of an object that cannot be had loads nothing, and the session stays
open. -/
theorem pendingPush_of_missing (isOpen : d.session.closed = false)
    (missing : d.lookup scope variant = none) (tidy : d.Tidy) :
    ∃ error d', pendingPush scope variant d = .error error d' ∧ error ≠ .sessionClosed ∧
      Alike d d' := by
  -- a lookup that succeeded would have found something
  cases ran : find variant scope d with
  | ok handle d₁ =>
    have found := found_of_ok tidy ran
    obtain ⟨origin, here⟩ :=
      lookup_of_finds (found.loaded.finds (.inl ⟨handle, found.placed, rfl⟩))
    cases missing.symm.trans here
  | error error d₁ =>
    refine ⟨error, d₁, bind_of_error (bind_of_error ran), ?_, alike_of_find_error ran⟩
    rintro rfl
    exact find_ne_closed isOpen ran

/-- Where one of some objects cannot be had, none of their pushes is given. -/
theorem mapM_pendingPush_of_missing (variants : List Variant) (tidy : d.Tidy)
    (isOpen : d.session.closed = false) (works : d.store.Works)
    (admitted : ∀ variant ∈ variants, scope.admits variant = true)
    (missing : ∃ variant ∈ variants, d.lookup scope variant = none) :
    ∃ error d', variants.mapM (pendingPush scope) d = .error error d' ∧
      error ≠ .sessionClosed ∧ Loaded d d' := by
  induction variants generalizing d with
  | nil =>
    obtain ⟨_, mem, -⟩ := missing
    cases mem
  | cons variant variants ih =>
    rw [List.mapM_cons]
    rw [List.forall_mem_cons] at admitted
    cases found : d.lookup scope variant with
    | none =>
      obtain ⟨error, d', failed, other, alike⟩ := pendingPush_of_missing isOpen found tidy
      exact ⟨error, d', bind_of_error failed, other, alike.loaded⟩
    -- one by one: the first that cannot be had ends it, with nothing but loading done before
    | some o =>
      -- the object is loaded, so it is one of the others that cannot be had
      obtain ⟨result, d₁, ran, loaded, tidy₁, -⟩ := pendingPush_of_finds tidy isOpen admitted.1
        (fun _ past => works past _) (finds_of_lookup found)
      have others : ∃ v ∈ variants, d₁.lookup scope v = none := by
        obtain ⟨v, mem, none⟩ := missing
        rcases List.mem_cons.mp mem with rfl | mem
        · cases none.symm.trans found
        · refine ⟨v, mem, Option.isNone_iff_eq_none.mp ?_⟩
          have becomes : d.Becomes Eq scope v d₁ := loaded.becomes
          have same := (becomes.waits_eq fun same => by rw [same]).2
          rw [none] at same
          simpa using same
      obtain ⟨error, d', failed, other, loaded'⟩ :=
        ih tidy₁ (loaded.closed.trans isOpen) (works.of_fault loaded.fault) admitted.2 others
      exact ⟨error, d', (bind_of_ok ran).trans (bind_of_error failed), other,
        loaded.trans loaded'⟩

/-- **The pushes for a destination**: those of the objects that wait, if all objects of its scope can
be had, and none otherwise. -/
theorem pendingPushes_cases (tidy : d.Tidy) (isOpen : d.session.closed = false)
    (works : d.store.Works) (destination : Destination) :
    (∃ pushes d', pendingPushes destination d = .ok pushes d' ∧ Loaded d d' ∧
      List.Forall₂ (fun variant push => ∃ o, d.Finds destination.scope variant o ∧
        push.Carries d.session.ring o) (d.pending destination.scope) pushes) ∨
    ∃ error d', pendingPushes destination d = .error error d' ∧ error ≠ .sessionClosed ∧
      Loaded d d' ∧ d.pending destination.scope = [] := by
  have admitted : ∀ variant ∈ destination.scope.variants,
      destination.scope.admits variant = true := fun _ mem => Scope.mem_variants.mp mem
  cases serves : d.serves destination.scope with
  -- all can be had, so each of those with changes gives its push
  | true =>
    have had := List.all_eq_true.mp serves
    let objects (variant : Variant) : Object :=
      (d.lookup destination.scope variant).getD Session.noObject
    have finds : ∀ variant ∈ destination.scope.variants,
        d.Finds destination.scope variant (objects variant) := by
      intro variant mem
      obtain ⟨o, found⟩ := Option.isSome_iff_exists.mp (had variant mem)
      refine finds_of_lookup (found.trans ?_)
      simp [objects, found]
    obtain ⟨pushes, d', ran, loaded, carry⟩ :=
      pendingPushes_of_finds tidy isOpen (fun _ _ _ past => works past _) finds
    refine .inl ⟨pushes, d', ran, loaded, ?_⟩
    have same : d.pending destination.scope =
        destination.scope.variants.filter fun variant => (objects variant).dirty := by
      rw [pending, serves, if_pos rfl]
      exact List.filter_congr fun variant mem => waits_of_finds (finds variant mem)
    rw [same]
    refine ((List.forall₂_and_left _ _).mpr ⟨fun variant mem => ?_, carry⟩).imp
      fun variant push both => ⟨objects variant, finds variant both.1, both.2⟩
    exact List.mem_of_mem_filter mem
  -- one cannot be had, so collecting fails there, and by definition nothing waits
  | false =>
    have missing : ∃ variant ∈ destination.scope.variants,
        d.lookup destination.scope variant = none := by
      obtain ⟨variant, mem, none⟩ := List.all_eq_false.mp serves
      exact ⟨variant, mem, by simpa using none⟩
    obtain ⟨error, d', failed, other, loaded⟩ :=
      mapM_pendingPush_of_missing _ tidy isOpen works admitted missing
    refine .inr ⟨error, d', bind_of_error failed, other, loaded, ?_⟩
    rw [pending, serves, if_neg (by decide)]

end SessionM

end ConfigReplica
