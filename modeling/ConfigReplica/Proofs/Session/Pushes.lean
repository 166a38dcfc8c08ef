import ConfigReplica.Proofs.Session.Reaching
import Mathlib.Data.List.Forall2

/-!
# Pending pushes

To see what has to be pushed to a destination a session looks at every object of its
scope, in the order in which variants are pushed. Objects that were not in use are
loaded for that, and nothing else comes of it (`Device.Loaded`). The pushes are those of
the objects with local changes, each of them sealed for its scope and variant under
a nonce that was drawn for it (`PendingPush.Carries`).

Only the store can keep a session from seeing its objects: where one is not in use its
row is asked for (`Device.Gives`).
-/

namespace ConfigReplica

open Config SessionM

/-- **The push of an object**, sealed for its scope and variant. -/
structure PendingPush.Carries (push : PendingPush) (ring : Seal.Keyring) (o : Object) : Prop where
  variant : push.variant = o.variant
  scope : push.scope = o.scope
  seqno : push.seqno = o.seqno
  sealed : ∃ nonce, push.data = ring.wrapWith nonce
    (Seal.Keyring.holder ring.user o.scope.group?) o.variant.name o.push.data

namespace SessionM

open Device

variable {d d' : Device} {scope : Scope} {variant : Variant} {handle : Handle} {o : Object}

/-- One that is not in use is not found if the store refuses its row. -/
theorem find_of_fault {text : String} (isOpen : d.session.closed = false)
    (admitted : scope.admits variant = true) (free : (d.session.slot scope)[variant]? = none)
    (refused : d.store.fault d.store.past (.read (scope.cell variant)) = some text) :
    find variant scope d = .error (.storage text)
      ((d.setSlot scope (d.session.slot scope)).noted (.read (scope.cell variant))) := by
  let touched := d.setSlot scope (d.session.slot scope)
  have failed : loadObject variant scope touched =
      .error (.storage text) (touched.noted (.read (scope.cell variant))) :=
    bind_of_error (onStore_load_of_fault _ _ _ touched refused)
  unfold find
  rw [bind_of_ok (checkOpen_of_open isOpen), bind_of_ok (check_of_admits admitted d),
    bind_of_ok (session_eq d), free]
  exact (bind_of_ok (show modifySession _ d = .ok () _ from rfl)).trans (bind_of_error failed)

/-- **The push of an object** that can be had, if it has local changes. -/
theorem pendingPush_of_finds (tidy : d.Tidy) (isOpen : d.session.closed = false)
    (admitted : scope.admits variant = true) (gives : d.Gives scope variant)
    (finds : d.Finds scope variant o) :
    ∃ result d', pendingPush scope variant d = .ok result d' ∧ Loaded d d' ∧ d'.Tidy ∧
      match result with
      | none => o.dirty = false
      | some push => o.dirty = true ∧ push.Carries d.session.ring o := by
  obtain ⟨handle, d₁, ran, found⟩ := find_of_finds tidy isOpen admitted gives finds
  obtain ⟨-, -, hasScope, hasVariant, live⟩ := found.tidy scope variant handle found.placed
  have looks : read variant scope d = .ok (d₁.session.object handle) d₁ := bind_of_ok ran
  -- the origin is told by no push
  obtain ⟨origin, same⟩ := found.object_eq finds
  generalize d₁.session.object handle = p at looks hasScope hasVariant live same
  unfold pendingPush
  rw [bind_of_ok looks, live, Bool.or_false]
  cases dirty : p.dirty with
  | false =>
    have clean := (congrArg Object.dirty same).symm.trans dirty
    exact ⟨none, d₁, rfl, found.loaded, found.tidy, clean⟩
  | true =>
    -- only the random draws are other ones once the push is sealed
    let wrapped := d₁.session.ring.wrap d₁.entropy p.push.data variant.name d₁.session.ring.user
      scope.group?
    let d₂ := { d₁ with entropy := wrapped.2 }
    have drawn : Alike d₁ d₂ := {}
    refine ⟨some ⟨variant, scope, p.seqno, wrapped.1⟩, d₂, rfl, found.loaded.trans drawn.loaded,
      drawn.tidy found.tidy, (congrArg Object.dirty same).symm.trans dirty, ?_⟩
    rw [← found.loaded.ring]
    subst same hasScope hasVariant
    exact ⟨rfl, rfl, rfl, _, rfl⟩

/-- The pushes of some objects of a scope. -/
theorem mapM_pendingPush {objects : Variant → Object} (variants : List Variant) (tidy : d.Tidy)
    (isOpen : d.session.closed = false)
    (admitted : ∀ variant ∈ variants, scope.admits variant = true)
    (gives : ∀ variant ∈ variants, d.Gives scope variant)
    (finds : ∀ variant ∈ variants, ∃ origin, d.Finds scope variant { objects variant with origin }) :
    ∃ results d', variants.mapM (pendingPush scope) d = .ok results d' ∧ Loaded d d' ∧
      List.Forall₂ (fun variant push => push.Carries d.session.ring (objects variant))
        (variants.filter fun variant => (objects variant).dirty) (results.filterMap id) := by
  -- the induction is on the variants, over the device that has loaded the first object
  induction variants generalizing d with
  | nil => exact ⟨[], d, rfl, (Alike.refl d).loaded, .nil⟩
  | cons variant variants ih =>
    rw [List.forall_mem_cons] at admitted gives finds
    -- a first object that was made may have another origin now, which the others do not care about
    obtain ⟨⟨origin, finds⟩, others⟩ := finds
    obtain ⟨result, d₁, ran, loaded, tidy₁, first⟩ :=
      pendingPush_of_finds tidy isOpen admitted.1 gives.1 finds
    obtain ⟨results, d₂, later, loaded₂, carry⟩ := ih tidy₁ (loaded.closed.trans isOpen) admitted.2
      (fun v mem => (gives.2 v mem).loaded loaded) fun v mem => by
        obtain ⟨origin, finds⟩ := others v mem
        exact (loaded.found finds :)
    rw [loaded.ring] at carry
    refine ⟨result :: results, d₂, ?_, loaded.trans loaded₂, ?_⟩
    · rw [List.mapM_cons, bind_of_ok ran, bind_of_ok later]
      rfl
    · cases result with
      -- it had no local changes, so there is no push of it
      | none =>
        rw [List.filter_cons_of_neg (by simpa using first)]
        exact carry
      | some push =>
        obtain ⟨dirty, carries⟩ := first
        rw [List.filter_cons_of_pos (by simpa using dirty)]
        exact .cons ⟨carries.variant, carries.scope, carries.seqno, carries.sealed⟩ carry

/-- **The pushes for a destination**, in the order of their variants: one for every object of its
scope with local changes, and no others. -/
theorem pendingPushes_of_finds {destination : Destination} {objects : Variant → Object}
    (tidy : d.Tidy) (isOpen : d.session.closed = false)
    (gives : ∀ variant ∈ destination.scope.variants, d.Gives destination.scope variant)
    (finds : ∀ variant ∈ destination.scope.variants,
      d.Finds destination.scope variant (objects variant)) :
    ∃ pushes d', pendingPushes destination d = .ok pushes d' ∧ Loaded d d' ∧
      List.Forall₂ (fun variant push => push.Carries d.session.ring (objects variant))
        (destination.scope.variants.filter fun variant => (objects variant).dirty) pushes := by
  obtain ⟨results, d', ran, loaded, carry⟩ := mapM_pendingPush destination.scope.variants tidy
    isOpen (fun _ mem => Scope.mem_variants.mp mem) gives fun _ mem => ⟨_, finds _ mem⟩
  exact ⟨_, d', bind_of_ok ran, loaded, carry⟩

end SessionM

end ConfigReplica
