import ConfigReplica.Proofs.Session.Announcements

/-!
# Bad updates in a batch

Anyone who can write to the network can put updates there that no device can open or read. Such an
update costs a batch nothing but its own place in the report (`SessionM.bad_updates_are_isolated`):

* a batch may be cut in two anywhere: the parts, merged one after the other, leave the same object
  and their reports add up;
* each update is either merged or skipped;
* a batch without the updates that would be skipped (`Config.Object.kept`) leaves the same object.

All of this is said of the object first, which skips an update by staying as it is. Between the
parts of a batch the session stores the object, and what arrives for an object does the same to it
whether it was stored or not (`Config.Object.received_markDumped`).
-/

namespace ConfigReplica

open Config

namespace MergeReport

/-- Each update counts as merged, or is skipped. -/
theorem merged_add_length_skipped (outcomes : List (Update × Option Bool)) :
    (of outcomes).merged + (of outcomes).skipped.length = outcomes.length := by
  have skipped : (of outcomes).skipped.length = outcomes.countP fun item => item.2.isNone := by
    unfold of
    rw [List.length_map, ← List.countP_eq_length_filter]
  -- whatever was not merged was skipped
  rw [skipped, outcomes.length_eq_countP_add_countP fun item => item.2.isSome]
  refine congrArg (outcomes.countP (fun item => item.2.isSome) + ·) (List.countP_congr ?_)
  simp

/-- The report of the updates that were merged is that of all but for those that were skipped. -/
theorem of_filter (outcomes : List (Update × Option Bool)) :
    of (outcomes.filter fun (_, outcome) => outcome.isSome) =
      { of outcomes with skipped := [] } := by
  -- the induction is on the outcomes, of which one is a report by itself
  induction outcomes with
  | nil => rfl
  | cons head outcomes ih =>
    obtain ⟨update, outcome⟩ := head
    have apart : (update, outcome) :: outcomes = [(update, outcome)] ++ outcomes := rfl
    rw [apart, List.filter_append, of_append, ih, of_append, append_eq, append_eq]
    cases outcome <;> rfl

end MergeReport

/-! ### Objects -/

namespace Config.Object

variable {o : Object} {ring : Seal.Keyring} {update : Update} {updates : List Update}

/-- The parts of a batch arrive one after the other. -/
theorem received_append (o : Object) (ring : Seal.Keyring) (first second : List Update) :
    o.received ring (first ++ second) = (o.received ring first).received ring second :=
  List.foldl_append ..

/-- What becomes of the parts of a batch is what becomes of it as a whole. -/
theorem outcomes_append (o : Object) (ring : Seal.Keyring) (first second : List Update) :
    o.outcomes ring (first ++ second) =
      o.outcomes ring first ++ (o.received ring first).outcomes ring second := by
  induction first generalizing o with
  | nil => rfl
  | cons update first ih => exact congrArg (_ :: ·) (ih (o.take ring update))

/-- There is one outcome for each update. -/
theorem map_fst_outcomes (o : Object) (ring : Seal.Keyring) (updates : List Update) :
    (o.outcomes ring updates).map Prod.fst = updates := by
  induction updates generalizing o with
  | nil => rfl
  | cons update updates ih => exact congrArg (update :: ·) (ih (o.take ring update))

/-- The updates of a batch that are merged: the batch without those that are skipped. -/
def kept (o : Object) (ring : Seal.Keyring) (updates : List Update) : List Update :=
  ((o.outcomes ring updates).filter fun (_, outcome) => outcome.isSome).map Prod.fst

/-- **An update that is skipped leaves no trace**: without it, all else of a batch comes to the
same. -/
theorem received_kept (o : Object) (ring : Seal.Keyring) (updates : List Update) :
    o.received ring (o.kept ring updates) = o.received ring updates ∧
      o.outcomes ring (o.kept ring updates) =
        (o.outcomes ring updates).filter fun (_, outcome) => outcome.isSome := by
  -- the induction is on the batch, over the object that its first update leaves
  induction updates generalizing o with
  | nil => exact ⟨rfl, rfl⟩
  | cons update updates ih =>
    have first := o.take_eq ring update
    obtain ⟨received, outcomes⟩ := ih (o.take ring update)
    unfold kept at received outcomes ⊢
    cases taken : o.take? ring update with
    | none =>
      -- the object stays as it is, and goes on with the rest
      rw [taken] at first
      change o.take ring update = o at first
      rw [first] at received outcomes
      simp only [Object.outcomes, taken, first, Option.map_none]
      exact ⟨received.trans (congrArg (·.received ring updates) first).symm, outcomes⟩
    -- the update is merged, so it is kept, and the rest goes on from the merged object
    | some result =>
      simp only [Object.outcomes, taken, Option.map_some]
      rw [List.filter_cons_of_pos (by rfl), List.map_cons]
      refine ⟨received, ?_⟩
      change (update, (o.take? ring update).map Prod.fst) :: _ = _
      rw [outcomes, taken]
      rfl

/-! ### What is stored -/

/-- What arrives does the same to an object whether or not it has to be stored. -/
theorem take?_markDumped (o : Object) (ring : Seal.Keyring) (update : Update) :
    (o.markDumped.take? ring update).map (Prod.map id markDumped) =
      (o.take? ring update).map (Prod.map id markDumped) := by
  -- none of what merging asks for is the mark
  have ended : o.markDumped.destroyed = o.destroyed := rfl
  have known : o.markDumped.hasMerged update.hash = o.hasMerged update.hash := rfl
  have opens : ring.unwrap update.data o.markDumped.variant.name o.markDumped.scope.group? =
      ring.unwrap update.data o.variant.name o.scope.group? := rfl
  unfold take?
  rw [opens]
  cases ring.unwrap update.data o.variant.name o.scope.group? with
  | error error => rfl
  | ok data =>
    have read : o.markDumped.readUpdate data = o.readUpdate data := rfl
    dsimp only
    unfold merge
    rw [ended, known, read]
    cases o.destroyed with
    | true => rfl
    | false =>
      cases o.hasMerged update.hash with
      | true => rfl
      | false => cases o.readUpdate data <;> rfl

/-- The object comes to the same but for the mark. -/
theorem take_markDumped (o : Object) (ring : Seal.Keyring) (update : Update) :
    (o.markDumped.take ring update).markDumped = (o.take ring update).markDumped := by
  have same := take?_markDumped o ring update
  rw [take_eq, take_eq]
  cases stored : o.markDumped.take? ring update <;> cases unstored : o.take? ring update <;>
    rw [stored, unstored] at same
  · rfl
  · cases same
  · cases same
  · exact congrArg Prod.snd (Option.some.inj same)

/-- So it does with a whole batch. -/
theorem received_markDumped (o : Object) (ring : Seal.Keyring) (updates : List Update) :
    (o.markDumped.received ring updates).markDumped = (o.received ring updates).markDumped := by
  -- the mark may be taken off before or after each update
  induction updates generalizing o with
  | nil => rfl
  | cons update updates ih =>
    change ((o.markDumped.take ring update).received ring updates).markDumped =
      ((o.take ring update).received ring updates).markDumped
    rw [← ih, take_markDumped, ih]

/-- And the same is reported of it. -/
theorem outcomes_markDumped (o : Object) (ring : Seal.Keyring) (updates : List Update) :
    o.markDumped.outcomes ring updates = o.outcomes ring updates := by
  induction updates generalizing o with
  | nil => rfl
  | cons update updates ih =>
    have first := congrArg (Option.map Prod.fst) (take?_markDumped o ring update)
    rw [Option.map_map, Option.map_map] at first
    unfold outcomes
    rw [← ih (o.markDumped.take ring update), take_markDumped, ih]
    exact congrArg (fun outcome => (update, outcome) :: _) first

end Config.Object

/-! ### Sessions -/

namespace Device

open SessionM

variable {d d' : Device} {scope : Scope} {variant : Variant} {handle : Handle} {o : Object}

/-- **A batch was merged**: the call gave a report and left this object in the slot of the scope and
variant. -/
structure MergesTo (d : Device) (variant : Variant) (scope : Scope) (updates : List Update)
    (time : Int64) (report : MergeReport) (handle : Handle) (o : Object) (d' : Device) : Prop where
  ran : merge variant scope updates time d = .ok report d'
  placed : d'.Placed scope variant handle
  object : d'.session.object handle = o

/-- **A batch for an object in its slot** does to it what it does to the object alone. Then the
object is stored, and the device is ready for the next. -/
theorem Ready.mergesTo (ready : d.Ready scope variant handle) (works : d.store.Works)
    (same : d.session.object handle = o) (updates : List Update) (time : Int64) :
    ∃ d', d.MergesTo variant scope updates time (.of (o.outcomes d.session.ring updates)) handle
        (o.received d.session.ring updates).markDumped d' ∧
      d'.session.ring = d.session.ring ∧ d'.store.Works ∧ d'.Ready scope variant handle := by
  subst same
  obtain ⟨known, -⟩ := ready.tidy scope variant handle ready.placed
  have ran := merge_of_ready ready updates time
  have ready₁ := ready.received d.session.ring updates
  generalize d.session.object handle = o at *
  -- `d₁` has the batch in the object, which is not stored yet
  let d₁ := d.setObject handle (o.received d.session.ring updates)
  have works₁ : d₁.store.Works := works
  have now : d₁.session.object handle = o.received d.session.ring updates := by
    rw [object_setObject, if_pos ⟨rfl, known⟩]
  obtain ⟨ring, -, fault⟩ := steady_dumped d₁ handle time
  rcases conclude_cases ready₁ time { variant, scope, time }
    (.of (o.outcomes d.session.ring updates)) with ⟨d', concluded, same, -⟩ | ⟨text, refused, -⟩
  · -- the object was stored if it had to be, and lost its mark
    have ready' := (ready₁.dumped time).aside same
    refine ⟨d', ⟨ran.trans concluded, ready'.placed, ?_⟩, same.ring.trans ring,
      works₁.of_fault (same.fault.trans fault), ready'⟩
    rw [same.object, object_dumped ((size_setObject ..).symm ▸ known), now]
  · -- the store works, so it did not refuse the row
    cases (works₁ _ _).symm.trans refused

/-- **Bad updates are isolated.** A session that is open over a store that works either merges no
batch for a scope and variant, because the scope was removed or does not admit the variant or
because the object cannot be loaded, or it merges every one:

* each update of a batch is merged or skipped;
* the batch without the skipped updates leaves the same object and the same report, but for what was
  skipped;
* if another batch is merged after it, this leaves the same object as both batches in one, whose
  report is that of the two together. -/
theorem bad_updates_are_isolated (reached : d.Reached) (isOpen : d.session.closed = false)
    (works : d.store.Works) (variant : Variant) (scope : Scope) :
    (∃ error d', Alike d d' ∧
      (∀ updates time, merge variant scope updates time d = .error error d') ∧
      ¬ (d.Admits scope ∧ scope.admits variant = true ∧ ∃ o, d.Finds scope variant o)) ∨
    ∃ o handle, d.Finds scope variant o ∧ ∀ updates time, ∃ report p d₁,
      report = MergeReport.of (o.outcomes d.session.ring updates) ∧
      p = (o.received d.session.ring updates).markDumped ∧
      d.MergesTo variant scope updates time report handle p d₁ ∧
      report.merged + report.skipped.length = updates.length ∧
      (∀ time', ∃ d', d.MergesTo variant scope (o.kept d.session.ring updates) time'
        { report with skipped := [] } handle p d') ∧
      ∀ more time' time'', ∃ report' q d₂ d',
        d₁.MergesTo variant scope more time' report' handle q d₂ ∧
        d.MergesTo variant scope (updates ++ more) time'' (report ++ report') handle q d' := by
  rcases reach_cases reached.tidy variant scope with ⟨error, d', alike, fails, never⟩ |
    ⟨handle, d₁, reaches⟩
  · -- what keeps one batch from being merged keeps every one
    refine .inl ⟨error, d', alike, fun updates time => fails _, ?_⟩
    rintro ⟨admits, admitted, finds⟩
    exact never ⟨isOpen, admits, admitted, works.answers, finds⟩
  · -- the object is had, and every batch goes on from there
    let o := d₁.session.object handle
    have ready := reaches.ready
    have merges (updates : List Update) (time : Int64) :
        ∃ d', d.MergesTo variant scope updates time (.of (o.outcomes d.session.ring updates))
            handle (o.received d.session.ring updates).markDumped d' ∧
          d'.session.ring = d.session.ring ∧ d'.store.Works ∧ d'.Ready scope variant handle := by
      obtain ⟨d', merged, steady⟩ :=
        ready.mergesTo (works.of_fault reaches.fault) rfl updates time
      rw [reaches.ring] at merged steady
      have same : merge variant scope updates time d = merge variant scope updates time d₁ :=
        reach_of_reaches reaches _
      exact ⟨d', ⟨same.trans merged.ran, merged.placed, merged.object⟩, steady⟩
    refine .inr ⟨o, handle, reaches.finds (.inl ⟨handle, ready.placed, rfl⟩), ?_⟩
    intro updates time
    obtain ⟨d₂, merged, ring₂, works₂, ready₂⟩ := merges updates time
    refine ⟨_, _, d₂, rfl, rfl, merged, ?_, fun time' => ?_, fun more time' time'' => ?_⟩
    · -- each update has one outcome, and it is that it was merged or skipped
      rw [MergeReport.merged_add_length_skipped, ← List.length_map Prod.fst,
        Object.map_fst_outcomes]
    · -- what is skipped leaves the object as it is, so leaving it out does the same
      obtain ⟨received, outcomes⟩ := o.received_kept d.session.ring updates
      obtain ⟨d', kept, -⟩ := merges (o.kept d.session.ring updates) time'
      rw [received, outcomes, MergeReport.of_filter] at kept
      exact ⟨d', kept⟩
    · -- it makes no difference to the second part that the object was stored before it
      obtain ⟨d₃, second, -⟩ := ready₂.mergesTo works₂ merged.object more time'
      obtain ⟨d', both, -⟩ := merges (updates ++ more) time''
      rw [ring₂, Object.outcomes_markDumped, Object.received_markDumped] at second
      rw [Object.outcomes_append, MergeReport.of_append, Object.received_append] at both
      exact ⟨_, _, d₃, d', second, both⟩

/-- An update that was cut short is skipped by a new session, which makes contacts for the batch and
stores the entry that came with the other update. -/
theorem bad_updates_are_isolated_cut_short :
    ∃ (d d₁ d' : Device) (handle : Handle) (p : Object),
      d.Reached ∧ d.session.closed = false ∧ d.store.Works ∧
      d.MergesTo .contacts .account [⟨"cut", []⟩, arriving] 7
        { merged := 1, skipped := ["cut"], changed := true } handle p d₁ ∧
      d.MergesTo .contacts .account [arriving] 8
        { merged := 1, skipped := [], changed := true } handle p d' ∧
      p.state.get? "contacts" "x" = some "1" := by
  let d := fresh 6
  have works : d.store.Works := fun _ _ => rfl
  have news : d.Finds .account .contacts newContacts := .inr ⟨rfl, 0, rfl⟩
  rcases bad_updates_are_isolated (reached_fresh 6) rfl works .contacts .account with
    ⟨_, _, -, -, never⟩ | ⟨o, handle, finds, merges⟩
  · -- nothing keeps a new session from its contacts
    have admits : d.Admits .account := by
      intro group other
      cases other
    exact absurd ⟨admits, rfl, _, news⟩ never
  · -- the object is that of new contacts, whatever its origin
    obtain ⟨origin, rfl⟩ := news.unique finds
    let o : Object := { newContacts with origin }
    have taken : o.take? fresh.ring arriving = some (true, o.absorb "m" teller.state) := by
      have reveals : newContacts.state.joinReveals teller.state = true := by decide +kernel
      have read := readUpdate_teller (show o.variant = .contacts from rfl)
      rw [← reveals]
      exact take?_sealedPush rfl rfl rfl read fresh.ring
    -- the first update has no bytes at all, so it cannot be opened
    have skipped : o.take? fresh.ring ⟨"cut", []⟩ = none := rfl
    have outcomes : o.outcomes fresh.ring [⟨"cut", []⟩, arriving] =
        [(⟨"cut", []⟩, none), (arriving, some true)] := by
      simp only [Object.outcomes, Object.take_eq, skipped, Option.map_none, Option.getD_none, taken,
        Option.map_some]
    have received : o.received fresh.ring [⟨"cut", []⟩, arriving] = o.absorb "m" teller.state := by
      simp only [Object.received, List.foldl_cons, List.foldl_nil, Object.take_eq, skipped,
        Option.map_none, Option.getD_none, taken, Option.map_some, Option.getD_some]
    obtain ⟨report, p, d₁, told, left, merged, -, kept, -⟩ := merges [⟨"cut", []⟩, arriving] 7
    obtain ⟨d', kept⟩ := kept 8
    have told : report = { merged := 1, skipped := ["cut"], changed := true } :=
      told.trans (congrArg MergeReport.of outcomes)
    have left : p = (o.absorb "m" teller.state).markDumped :=
      left.trans (congrArg Object.markDumped received)
    have alone : o.kept fresh.ring [⟨"cut", []⟩, arriving] = [arriving] := by
      rw [Object.kept, outcomes]
      rfl
    change d.MergesTo _ _ (o.kept fresh.ring _) _ _ _ _ _ at kept
    rw [alone] at kept
    subst told
    refine ⟨d, d₁, d', handle, p, reached_fresh 6, rfl, works, merged, kept, ?_⟩
    rw [left]
    exact get?_absorbed

end Device

end ConfigReplica
