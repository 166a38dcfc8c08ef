import ConfigReplica.Proofs.Session.Rows
import ConfigReplica.Proofs.Session.Watermarks

/-!
# What wiping deletes

Wiping ends the session and deletes rows: those of the account's objects, of the objects
of every group that it knows of, the watermarks and the removal marks. It knows of the
groups that have slots in this session and, as long as the session is open, of those in
the account's records (`Device.Knows`).

* Over a store that works, wiping succeeds exactly if these records can be read.
* Of all objects, those of the other groups are left in the store, if there are any: of
  groups that the account has no record of, and of all groups that an earlier session
  worked on, when the session was closed before (`Device.Wiped`).
* From then on no object is ever stored again in this session, but a change that is checked
  leaves its watermark (`Device.Final`).

The proof follows the deletions one by one. Each is an action that deletes known rows and
no others (`SessionM.Sweeps`), and so is a series of them.
-/

namespace ConfigReplica

open Config

namespace SessionM

open Device

variable {α β γ : Type}

/-! ### Deleting -/

/-- Over a store that works, an action succeeds and deletes the rows at these places, no others. -/
def Sweeps (action : SessionM PUnit) (swept : Cell → Prop) : Prop :=
  ∀ d : Device, d.store.Works → ∃ d', action d = .ok ⟨⟩ d' ∧ d'.session = d.session ∧
    d'.store.Works ∧ ∀ cell bytes, d'.store.row? cell = some bytes ↔
      d.store.row? cell = some bytes ∧ ¬ swept cell

/-- A row that is deleted is gone, and no other is. -/
theorem sweeps_delete (table : Table) (key : String) :
    Sweeps (onStore (StoreM.delete table key)) fun cell => cell = ⟨table, key⟩ := by
  intro d works
  have ran := onStore_delete table key d
  rw [works] at ran
  refine ⟨_, ran, rfl, works, fun cell bytes => ?_⟩
  rw [row?_eraseRow]
  split
  · -- the row of this place is gone, and was the only one that had to go
    next here => simp [here]
  · next other => exact ⟨fun row => ⟨row, other⟩, And.left⟩

namespace Sweeps

variable {action next : SessionM PUnit} {swept others : Cell → Prop}

/-- What is deleted in turn is deleted. -/
theorem bind (sweeps : Sweeps action swept) (more : Sweeps next others) :
    Sweeps (action >>= fun _ => next) fun cell => swept cell ∨ others cell := by
  intro d works
  obtain ⟨d₁, ran₁, session₁, works₁, rows₁⟩ := sweeps d works
  obtain ⟨d₂, ran₂, session₂, works₂, rows₂⟩ := more d₁ works₁
  refine ⟨d₂, (bind_of_ok ran₁).trans ran₂, session₂.trans session₁, works₂, fun cell bytes => ?_⟩
  rw [rows₂, rows₁, not_or, and_assoc]

theorem imp (sweeps : Sweeps action swept) (same : ∀ cell, swept cell ↔ others cell) :
    Sweeps action others := by
  rwa [funext fun cell => propext (same cell)] at sweeps

/-- What is deleted for one item after the other. -/
theorem forM {f : γ → SessionM PUnit} {swept : γ → Cell → Prop} (items : List γ)
    (each : ∀ x, Sweeps (f x) (swept x)) :
    Sweeps (items.forM f) fun cell => ∃ x ∈ items, swept x cell := by
  induction items with
  | nil => exact fun d works => ⟨d, rfl, rfl, works, fun cell bytes => by simp⟩
  | cons x items ih =>
    change Sweeps (f x >>= fun _ => items.forM f) _
    exact ((each x).bind ih).imp fun cell => by simp

end Sweeps

/-- The rows of some variants of a scope. -/
theorem sweeps_rows (scope : Scope) (variants : List Variant) :
    Sweeps (variants.forM (deleteRow scope)) fun cell =>
      ∃ variant ∈ variants, cell = scope.cell variant :=
  .forM variants fun variant => sweeps_delete .configs (scope.slotKey variant)

/-! ### Reading the records -/

/-- Rows and which groups have slots are as before. -/
structure Looked (d d' : Device) : Prop where
  rows : d'.store.rows = d.store.rows := by rfl
  fault : d'.store.fault = d.store.fault := by rfl
  groups : ∀ group, Scope.group group ∈ d'.session.slots ↔ Scope.group group ∈ d.session.slots := by
    exact fun _ => Iff.rfl

/-- An action that leaves rows and the slots of groups alone, whether it fails or not. -/
def Leaves (action : SessionM α) : Prop :=
  ∀ d, Looked d (stateAfter action d)

namespace Leaves

/-- Actions in turn leave alone what each of them does. -/
theorem bind {first : SessionM α} {next : α → SessionM β} (leaves : Leaves first)
    (goesOn : ∀ x, Leaves (next x)) : Leaves (first >>= next) :=
  fun d => stateAfter_bind
    (fun one two => ⟨two.rows.trans one.rows, two.fault.trans one.fault,
      fun group => (two.groups group).trans (one.groups group)⟩) (leaves d) goesOn

theorem pure (x : α) : Leaves (Pure.pure x) :=
  fun _ => {}

theorem ofExcept (outcome : Except Error α) : Leaves (SessionM.ofExcept outcome) := by
  intro d
  cases outcome <;> exact {}

/-- Touching a slot of the account. -/
theorem modifySlot (f : Session → Array Object) (g : Session → Std.ExtTreeMap Variant Handle) :
    Leaves (modifySession fun s =>
      { s with objects := f s, slots := s.slots.insert .account (g s) }) := by
  intro d
  refine { groups := fun group => ?_ }
  change Scope.group group ∈ d.session.slots.insert _ _ ↔ _
  rw [Std.ExtTreeMap.mem_insert, Std.compare_eq_iff_eq]
  simp

end Leaves

/-- To look up an object of the account may load it and give it a slot, which is no slot of a group.
-/
theorem leaves_find (variant : Variant) : Leaves (find variant .account) := by
  -- looking at the session, drawing and checking that it is open touch no row
  have looks : Leaves session := fun _ => {}
  have drawn : Leaves drawWord := fun _ => {}
  have isOpen : Leaves checkOpen := by
    refine looks.bind fun s => ?_
    split
    · exact fun _ => {}
    · exact .pure _
  have loaded : Leaves (onStore (StoreM.load StoredObject.codec .configs
      (Scope.account.slotKey variant))) := by
    -- a row that is read stays, whether it can be read or not
    intro d
    rcases onStore_load_cases StoredObject.codec .configs (Scope.account.slotKey variant) d with
      ⟨value, ran, -⟩ | ⟨error, ran⟩
    · rw [stateAfter_of_ok ran]
      exact {}
    · rw [stateAfter_of_error ran]
      exact {}
  have loads : Leaves (loadObject variant .account) := by
    refine loaded.bind fun stored => ?_
    cases stored with
    -- the object is made of a number that is drawn, or of what its row holds
    | none =>
      change Leaves (drawWord >>= fun origin => session >>= fun s =>
        Pure.pure ((Object.blank variant .account origin).withMemory s.settings.memory))
      exact drawn.bind fun origin => looks.bind fun s => .pure _
    | some stored => exact (Leaves.ofExcept _).bind fun o => looks.bind fun s => .pure _
  refine isOpen.bind fun _ => (Leaves.ofExcept _).bind fun _ => looks.bind fun s => ?_
  -- an object that is in its slot is left there, and one that is loaded gets a slot of the account
  split
  · exact .pure _
  · refine (Leaves.modifySlot Session.objects fun s => s.slot .account).bind fun _ => ?_
    refine loads.bind fun o => looks.bind fun s => Leaves.bind ?_ fun _ => .pure _
    exact .modifySlot (fun s => s.objects.push o) fun _ => _

/-- Reading the groups' records looks up one object of the account. -/
theorem leaves_recordedGroups : Leaves recordedGroups := by
  have looks : Leaves session := fun _ => {}
  have reads : Leaves (read .userGroups .account) :=
    (leaves_find _).bind fun handle => looks.bind fun s => .pure _
  refine looks.bind fun s => ?_
  split
  · exact .pure _
  · exact reads.bind fun o => (Leaves.ofExcept _).bind fun entries => .pure _

end SessionM

namespace Device

open SessionM

variable {deed : Deed} {d d' : Device} {groups : List GroupId}

/-- **The groups that wiping knows of**: those of these records, and those that have slots. -/
def Knows (d : Device) (groups : List GroupId) (group : GroupId) : Prop :=
  group ∈ groups ∨ Scope.group group ∈ d.session.slots

/-- **The places of the rows that wiping deletes**, when it knows of these groups. -/
inductive Swept (known : GroupId → Prop) : Cell → Prop
  | account (variant : Variant) (admitted : Scope.account.admits variant = true) :
      Swept known (Scope.account.cell variant)
  | group {group : GroupId} (knows : known group) (variant : Variant)
      (admitted : (Scope.group group).admits variant = true) :
      Swept known ((Scope.group group).cell variant)
  | watermarks (variant : Variant) : Swept known ⟨.changeWatermarks, variant.name⟩
  | marks : Swept known RemovalMarks.cell

/-- The rows of a group are deleted only if it is known. -/
theorem Swept.known {known : GroupId → Prop} {group : GroupId} {variant : Variant}
    (swept : Swept known ((Scope.group group).cell variant)) : known group := by
  -- the places of rows differ in their tables or keys, which leaves one case
  generalize same : (Scope.group group).cell variant = cell at swept
  cases swept with
  | account v admitted => cases (Scope.cell_inj same).1
  | group knows v admitted =>
    obtain ⟨⟨rfl⟩, -⟩ := Scope.cell_inj same
    exact knows
  | watermarks v => cases congrArg Cell.table same
  | marks => cases congrArg Cell.table same

/-- The deletions, in their order. -/
theorem sweeps_all (known : List GroupId) :
    Sweeps (Variant.ofAccount.forM (deleteRow .account) >>= fun _ =>
      (known.forM fun group => Variant.ofGroup.forM (deleteRow (.group group))) >>= fun _ =>
      (Variant.all.forM fun variant => onStore (StoreM.delete .changeWatermarks variant.name)) >>=
      fun _ => onStore (StoreM.delete .accountData RemovalMarks.key)) (Swept (· ∈ known)) := by
  -- the rows of the account, of the groups, of the watermarks and of the marks, in this order
  have sweeps := (sweeps_rows .account Variant.ofAccount).bind <|
    (Sweeps.forM known fun group => sweeps_rows (.group group) Variant.ofGroup).bind <|
    (Sweeps.forM Variant.all fun variant => sweeps_delete .changeWatermarks variant.name).bind <|
    sweeps_delete .accountData RemovalMarks.key
  refine sweeps.imp fun cell => ⟨?_, ?_⟩
  · -- what is deleted is one of these, by the step that deletes it
    rintro (⟨variant, mem, rfl⟩ | ⟨group, knows, variant, mem, rfl⟩ | ⟨variant, -, rfl⟩ | rfl)
    · exact .account variant (Scope.mem_variants.mp mem)
    · exact .group knows variant (Scope.mem_variants.mp mem)
    · exact .watermarks variant
    · exact .marks
  · -- and each of these is deleted by a step
    rintro (⟨variant, admitted⟩ | ⟨knows, variant, admitted⟩ | ⟨variant⟩ | -)
    · exact .inl ⟨variant, Scope.mem_variants.mpr admitted, rfl⟩
    · exact .inr (.inl ⟨_, knows, variant, Scope.mem_variants.mpr admitted, rfl⟩)
    · exact .inr (.inr (.inl ⟨variant, Variant.mem_all variant, rfl⟩))
    · exact .inr (.inr (.inr rfl))

/-- The groups that have slots, among the scopes that do. -/
theorem mem_groups_iff {slots : Std.ExtTreeMap Scope (Std.ExtTreeMap Variant Handle)}
    {group : GroupId} :
    group ∈ slots.keys.filterMap Scope.group? ↔ Scope.group group ∈ slots := by
  simp only [List.mem_filterMap, Std.ExtTreeMap.mem_keys]
  constructor
  · rintro ⟨scope | id, mem, same⟩
    · -- the account has no group
      cases same
    · obtain rfl := Option.some.inj same
      exact mem
  · exact fun mem => ⟨_, mem, rfl⟩

/-- **Wiping, once the records are read.** -/
theorem wipe_of_recorded (works : d.store.Works) (recorded : recordedGroups d = .ok groups d') :
    ∃ d₂, wipe d = .ok () d₂ ∧ d₂.session.closed = true ∧ d₂.session.slots = ∅ ∧
      d₂.session.watermarks = ∅ ∧ d₂.store.Works ∧
      ∀ cell bytes, d₂.store.row? cell = some bytes ↔
        d.store.row? cell = some bytes ∧ ¬ Swept (d.Knows groups) cell := by
  have looked := leaves_recordedGroups d
  rw [stateAfter_of_ok recorded] at looked
  -- `d₁` is closed, in `d₂` nothing is in use any more, and from `d₃` the rows are gone
  let d₁ : Device := { d' with session := { d'.session with closed := true } }
  obtain ⟨objects, evicted, -⟩ := evictAll_eq d₁
  let known := Std.ExtTreeSet.ofList (groups ++ d₁.session.slots.keys.filterMap Scope.group?)
  let d₂ : Device := { d₁ with session := { d₁.session with objects, slots := ∅ } }
  -- nothing was done that makes a store refuse
  have works₂ : d₂.store.Works := fun past step => by
    change d'.store.fault past step = none
    rw [looked.fault]
    exact works past step
  obtain ⟨d₃, swept, session, works₃, rows⟩ := sweeps_all known.toList d₂ works₂
  let forget : SessionM Unit :=
    modifySession (fun s => { s with removed := some ∅, watermarks := ∅ }) >>= fun _ =>
      modifySchedule fun s => { s with queue := ∅ }
  -- what is left to do once the rows are gone touches the session alone
  have ran : wipe d = forget d₃ := by
    have last : (_ >>= fun _ => forget) d₂ = forget d₃ := bind_of_ok swept
    unfold wipe
    rw [bind_of_ok recorded, bind_of_ok (show close d' = .ok () d₁ from rfl), bind_of_ok evicted,
      ← last]
    simp only [bind_assoc]
    rfl
  -- reading the records may have given the account a slot, but no group
  have knows : (· ∈ known.toList) = d.Knows groups := funext fun group => propext <| by
    have slots : group ∈ d₁.session.slots.keys.filterMap Scope.group? ↔
        Scope.group group ∈ d.session.slots := mem_groups_iff.trans (looked.groups group)
    simp [known, Knows, slots]
  rw [knows] at rows
  refine ⟨_, ran, ?_, ?_, rfl, works₃, fun cell bytes => ?_⟩
  · exact congrArg Session.closed session
  · exact congrArg Session.slots session
  · -- the records were read, which left all rows as they were
    have same : d₂.store.row? cell = d.store.row? cell := by
      unfold Store.row?
      exact congrArg (·[cell]?) looked.rows
    rw [← same]
    exact rows cell bytes

/-! ### Which rows there are -/

/-- Every row of an object or of watermarks is that of some scope and variant. -/
structure Filed (d : Device) : Prop where
  configs : ∀ key bytes, d.store.row? ⟨.configs, key⟩ = some bytes →
    ∃ (scope : Scope) (variant : Variant), scope.admits variant = true ∧ key = scope.slotKey variant
  watermarks : ∀ key bytes, d.store.row? ⟨.changeWatermarks, key⟩ = some bytes →
    ∃ variant : Variant, key = variant.name

/-- What an effect writes is filed as well. -/
theorem Effect.filed (effect : Effect deed d d') (tidy : d.Tidy) (filed : d.Filed) : d'.Filed := by
  refine ⟨fun key bytes row => ?_, fun key bytes row => ?_⟩
  · -- a row was there before, or the effect wrote it, and what is written is filed by its kind
    rcases effect.row_cases row with row | writes
    · exact filed.configs key bytes row
    · generalize place : (⟨.configs, key⟩ : Cell) = cell at writes
      cases writes with
      | marks change known => cases congrArg Cell.table place
      | watermarks variant => cases congrArg Cell.table place
      | object stores object placed time present =>
        obtain ⟨-, admitted, hasScope, hasVariant, -⟩ := tidy _ _ _ placed
        subst object
        exact ⟨_, _, hasScope.symm ▸ hasVariant.symm ▸ admitted, congrArg Cell.key place⟩
  · -- the same for rows of watermarks, of which there is one for each variant
    rcases effect.row_cases row with row | writes
    · exact filed.watermarks key bytes row
    · generalize place : (⟨.changeWatermarks, key⟩ : Cell) = cell at writes
      cases writes with
      | marks change known => cases congrArg Cell.table place
      | watermarks variant => exact ⟨variant, congrArg Cell.key place⟩
      | object stores object placed time present => cases congrArg Cell.table place

/-- A device that sessions may come to when nothing of the configuration was stored before. -/
def Begun (d : Device) : Prop :=
  ∃ d₀ ring settings, (∀ key, d₀.store.row? ⟨.configs, key⟩ = none ∧
    d₀.store.row? ⟨.changeWatermarks, key⟩ = none) ∧ Runs {} (opened d₀ ring settings) d

/-- Where nothing of the configuration was stored before, all of it is filed. -/
theorem Begun.filed (begun : d.Begun) : d.Filed := by
  obtain ⟨d₀, ring, settings, empty, run⟩ := begun
  refine (run.keeps (tidy_opened _ _ _) (fun _ tidy effect => effect.filed tidy)
    (fun _ filed => ⟨filed.configs, filed.watermarks⟩)
    (fun _ filed => ⟨filed.configs, filed.watermarks⟩) ⟨?_, ?_⟩).2
  · -- in the beginning there are no such rows
    intro key bytes row
    cases (empty key).1.symm.trans row
  · intro key bytes row
    cases (empty key).2.symm.trans row

/-! ### After wiping -/

/-- No run makes a store refuse what it did not refuse before. -/
theorem Runs.works {terms : Terms} (run : Runs terms d d') (tidy : d.Tidy) (works : d.store.Works) :
    d'.store.Works :=
  (run.keeps (P := fun d => d.store.Works) tidy
    (fun _ _ effect works past step => by rw [effect.steady.2.2.2, works])
    (fun _ => id) (fun _ => id) works).2

/-- A session that has ended stores no object, and watermarks only of changes that it checks. -/
theorem Effect.row_of_ended (effect : Effect deed d d') (ended : Ended d) {cell : Cell}
    {bytes : Bytes} (row : d'.store.row? cell = some bytes) (unmarked : cell ≠ RemovalMarks.cell)
    (unchecked : cell.table = .changeWatermarks → deed ≠ .change) :
    d.store.row? cell = some bytes := by
  -- what an ended session writes is either excepted here, or would need an object in use
  rcases effect.row_cases row with before | writes
  · exact before
  · cases writes with
    | marks change known => exact absurd rfl unmarked
    | watermarks variant => exact absurd rfl (unchecked rfl)
    | object stores object placed time present => exact absurd placed (ended.2 _ _ _)

/-- Along a run without another session, no row is added either. -/
theorem Runs.row_of_ended {terms : Terms} (run : Runs terms d d') (ended : Ended d)
    (stays : ∀ d, ¬ terms.reopen d) {cell : Cell} (unmarked : cell ≠ RemovalMarks.cell)
    (unchecked : ∀ {time deed}, terms.deed time deed → cell.table = .changeWatermarks →
      deed ≠ .change)
    {bytes : Bytes} (row : d'.store.row? cell = some bytes) : d.store.row? cell = some bytes := by
  -- nothing is in use any more, so nothing can be out of place
  have tidy : d.Tidy := fun scope variant handle placed => absurd placed (ended.2 _ _ _)
  let fewer (d' : Device) : Prop :=
    d'.store.row? cell = some bytes → d.store.row? cell = some bytes
  refine (run.keeps (P := fun d => Ended d ∧ fewer d) tidy ?_ (fun _ => id)
    (fun opens => absurd opens (stays _)) ⟨ended, id⟩).2.2 row
  -- by induction over the run, with the fact that the session has ended at every effect
  rintro a b deed allowed - effect ⟨ended, earlier⟩
  exact ⟨ended.keeps effect, fun row =>
    earlier (effect.row_of_ended ended row unmarked (unchecked allowed))⟩

/-- **What wiping leaves behind**, if the account's records name these groups. -/
structure Wiped (d : Device) (groups : List GroupId) (d' : Device) : Prop where
  closed : d'.session.closed = true
  configs : ∀ key bytes, d'.store.row? ⟨.configs, key⟩ = some bytes ↔
    d.store.row? ⟨.configs, key⟩ = some bytes ∧ ∃ (group : GroupId) (variant : Variant),
      key = (Scope.group group).slotKey variant ∧ ¬ d.Knows groups group
  watermarks : ∀ key, d'.store.row? ⟨.changeWatermarks, key⟩ = none
  marks : d'.store.row? RemovalMarks.cell = none

/-- What a run is held to that opens no other session and checks no change. -/
def unchecked : Terms where
  deed _ deed := deed ≠ .change
  reopen _ := False

/-- **What may become of the store later**, as long as no other session is opened. -/
structure Final (d : Device) : Prop where
  /-- No row of an object is added. -/
  configs : ∀ {d'}, Runs { reopen := fun _ => False } d d' → ∀ key bytes,
    d'.store.row? ⟨.configs, key⟩ = some bytes → d.store.row? ⟨.configs, key⟩ = some bytes
  /-- Unless a change is checked, no row of watermarks is added. -/
  watermarks : ∀ {d'}, Runs unchecked d d' → ∀ key,
    d'.store.row? ⟨.changeWatermarks, key⟩ = none
  /-- A change that is checked is accepted, and its watermark stored. -/
  checked : ∀ variant key time, ∃ d', checkChange variant key time d = .ok () d' ∧
    ∃ bytes, d'.store.row? ⟨.changeWatermarks, variant.name⟩ = some bytes

/-- Nothing of the configuration is left exactly if every group with a row was known. -/
theorem Wiped.configs_empty_iff (wiped : d.Wiped groups d') :
    (∀ key, d'.store.row? ⟨.configs, key⟩ = none) ↔
      ∀ (group : GroupId) (variant : Variant) bytes,
        d.store.row? ((Scope.group group).cell variant) = some bytes → d.Knows groups group := by
  constructor
  · -- a group with a row that is not known would have left that row
    intro empty group variant bytes row
    by_contra unknown
    have left := (wiped.configs ((Scope.group group).slotKey variant) bytes).mpr
      ⟨row, group, variant, rfl, unknown⟩
    rw [empty] at left
    cases left
  · -- a row that is left is one of an unknown group, against the assumption
    intro known key
    refine Option.eq_none_iff_forall_ne_some.mpr fun bytes left => ?_
    obtain ⟨row, group, variant, rfl, unknown⟩ := (wiped.configs key bytes).mp left
    exact unknown (known group variant bytes row)

/-- Checking a change when no watermark of its variant is known or stored. -/
theorem checkChange_of_unread (works : d.store.Works) (unread : d.session.watermarks = ∅)
    {variant : Variant} (free : d.store.row? ⟨.changeWatermarks, variant.name⟩ = none)
    (key : String) (time : Int64) :
    ∃ d', checkChange variant key time d = .ok () d' ∧
      ∃ bytes, d'.store.row? ⟨.changeWatermarks, variant.name⟩ = some bytes := by
  -- nothing is in memory, nothing is in the row, and so there is no watermark
  have unknown : d.session.watermarks[variant]? = none := by
    rw [unread]
    simp
  have holds : d.store.Holds variant ∅ := by
    unfold Store.Holds
    rw [show d.store.row? variant.watermarksCell = none from free]
  have none : d.watermark? variant key = none := by
    rw [watermark?, knownMarks, unknown]
    change (d.store.watermarks variant)[key]? = _
    rw [holds.watermarks_eq]
    simp
  -- the change has nothing to be compared with
  have first (mark : Int64) (found : d.watermark? variant key = some mark) : mark < time := by
    cases none.symm.trans found
  have accepted :=
    @checkChange_of_later d ⟨variant, key, time⟩ works.answers (fun _ => ⟨∅, holds⟩) first
  let known := (d.recalled variant).setMarksOf variant (d.marksWith ⟨variant, key, time⟩)
  have stays : known.store.Works := by
    intro past step
    exact (congrFun₂ (d.unmoved_recalled variant).fault past step).trans (works past step)
  -- and what is accepted is written, since the store takes it
  have row : (d.accepting ⟨variant, key, time⟩).store.row? variant.watermarksCell =
      some (watermarksCodec.write (d.marksWith ⟨variant, key, time⟩)) := by
    change (known.tried _ _).store.row? _ = _
    rw [known.tried_of_works _ _ stays]
    exact (row?_setRow _ _ _ _).trans (if_pos rfl)
  exact ⟨_, accepted, _, row⟩

/-- What wiping leaves behind is final. -/
theorem final_of_ended (ended : Ended d) (works : d.store.Works)
    (unread : d.session.watermarks = ∅)
    (free : ∀ key, d.store.row? ⟨.changeWatermarks, key⟩ = none) : d.Final where
  configs run key bytes row :=
    -- a row of an object could only be one of the removal marks or of watermarks
    run.row_of_ended ended (fun _ => id) (by simp [RemovalMarks.cell]) (by simp) row
  watermarks run key := by
    refine Option.eq_none_iff_forall_ne_some.mpr fun bytes row => ?_
    have before := run.row_of_ended ended (fun _ => id) (by simp [RemovalMarks.cell])
      (fun unchecked _ => unchecked) row
    cases (free key).symm.trans before
  checked variant key time := checkChange_of_unread works unread (free _) key time

/-- **What wiping deletes.** Over a store that works, wiping succeeds exactly if the records of the
account's groups can be read, and deletes nothing otherwise; once the session is closed it reads
no records. Then the rows of the account and of all groups that it knows of are gone, and none
comes back; no object is left in the store exactly if it knew of every group that has a row. -/
theorem wipe_deletes_known_groups {d : Device} (begun : d.Begun) (works : d.store.Works) :
    (d.session.closed = true → recordedGroups d = .ok [] d) ∧
    (∀ {error d'}, recordedGroups d = .error error d' →
      wipe d = .error error d' ∧ d'.store.rows = d.store.rows) ∧
    ∀ {groups d₁}, recordedGroups d = .ok groups d₁ →
      ∃ d', wipe d = .ok () d' ∧ d.Wiped groups d' ∧ d'.Final ∧
        ((∀ key, d'.store.row? ⟨.configs, key⟩ = none) ↔
          ∀ (group : GroupId) (variant : Variant) bytes,
            d.store.row? ((Scope.group group).cell variant) = some bytes →
              d.Knows groups group) := by
  refine ⟨fun closed => ?_, fun failed => ⟨bind_of_error failed, ?_⟩, fun recorded => ?_⟩
  · -- a closed session does not read its records
    unfold recordedGroups
    rw [bind_of_ok (session_eq d), if_pos closed]
    rfl
  · -- reading them is the first step, so nothing was deleted when it fails
    rw [← stateAfter_of_error failed]
    exact (leaves_recordedGroups d).rows
  -- the records were read, and all deletions follow
  obtain ⟨d', wiped, closed, slots, unread, works', rows⟩ := wipe_of_recorded works recorded
  have filed := begun.filed
  have watermarks (key : String) : d'.store.row? ⟨.changeWatermarks, key⟩ = none := by
    refine Option.eq_none_iff_forall_ne_some.mpr fun bytes left => ?_
    obtain ⟨row, unswept⟩ := (rows _ bytes).mp left
    obtain ⟨variant, rfl⟩ := filed.watermarks key bytes row
    exact unswept (.watermarks variant)
  -- the session is closed and nothing is in use, so it has ended
  have ended : Ended d' := ⟨closed, fun scope variant handle placed => by
    simp [Placed, Session.slot, slots] at placed⟩
  suffices left : d.Wiped _ d' from
    ⟨d', wiped, left, final_of_ended ended works' unread watermarks, left.configs_empty_iff⟩
  refine ⟨closed, fun key bytes => ?_, watermarks, ?_⟩
  · -- every row is of some object, and of those only the known ones are deleted
    rw [rows]
    refine and_congr_right fun row => ⟨fun unswept => ?_, ?_⟩
    · obtain ⟨scope, variant, admitted, rfl⟩ := filed.configs key bytes row
      cases scope with
      | account => exact absurd (.account variant admitted) unswept
      | group group => exact ⟨group, variant, rfl, fun known => unswept (.group known _ admitted)⟩
    · rintro ⟨group, variant, rfl, unknown⟩ swept
      exact unknown swept.known
  · -- and the marks are deleted in any case
    exact Option.eq_none_iff_forall_ne_some.mpr fun bytes left => ((rows _ bytes).mp left).2 .marks

/-- Wiping an open session deletes the row of a group that it worked on. -/
theorem wipe_deletes_known_groups_worked :
    ∃ d d' : Device, d.Begun ∧ d.store.Works ∧ wipe d = .ok () d' ∧
      (∃ bytes, d.store.row? ((Scope.group someGroup).cell .groupInfo) = some bytes) ∧
      d'.store.row? ((Scope.group someGroup).cell .groupInfo) = none := by
  let d := stateAfter (edit .groupInfo (.group someGroup) (EditM.set "info" "name" "1")) (fresh 5)
  have run : Runs {} (fresh 5) d :=
    (Runs.refl _).act (.edit .groupInfo (.group someGroup) (.set "info" "name" "1")) trivial
  have begun : d.Begun := ⟨_, fresh.ring, {}, fun key => ⟨rfl, rfl⟩, run⟩
  have works : d.store.Works := run.works (tidy_opened _ _ _) fun _ _ => rfl
  have facts : yields recordedGroups d (fun _ => true) = true ∧
      Scope.group someGroup ∈ d.session.slots ∧
      (d.store.row? ((Scope.group someGroup).cell .groupInfo)).isSome = true := by
    -- the session is open, the group has a slot and its row is there
    decide +kernel
  obtain ⟨read, slot, row⟩ := facts
  obtain ⟨groups, recorded, -⟩ := exists_of_yields read
  obtain ⟨d', wiped, rows, -⟩ := (wipe_deletes_known_groups begun works).2.2 recorded
  refine ⟨d, d', begun, works, wiped, Option.isSome_iff_exists.mp row, ?_⟩
  -- the group of this row was known, so the row did not stay
  refine Option.eq_none_iff_forall_ne_some.mpr fun bytes left => ?_
  obtain ⟨-, group, variant, key, unknown⟩ := (rows.configs _ bytes).mp left
  obtain ⟨⟨rfl⟩, -⟩ := Scope.slotKey_inj key
  exact unknown (.inr slot)

/-- **Wiping leaves rows behind, and can fail.** A group is worked on and recorded. The session is
opened again and closed, and then wiped: the group's row is still there, and a change that is
checked stores its watermark. Where a record cannot be read, an open session is not wiped. -/
theorem wipe_leaves_rows :
    (∃ d d' d'' : Device, d.Begun ∧ d.store.Works ∧ wipe d = .ok () d' ∧
      (∃ bytes, d'.store.row? ((Scope.group someGroup).cell .groupInfo) = some bytes) ∧
      checkChange .contacts "05aa" 10 d' = .ok () d'' ∧
      ∃ bytes, d''.store.row? ⟨.changeWatermarks, Variant.contacts.name⟩ = some bytes) ∧
    ∃ (d d' : Device) (error : Error), d.Begun ∧ d.store.Works ∧ wipe d = .error error d' ∧
      ∃ bytes, d'.store.row? (Scope.account.cell .userGroups) = some bytes := by
  constructor
  · let entry : GroupEntry := { group := someGroup, name := "Hikers" }
    let d₁ := stateAfter (edit .userGroups .account (EditM.setRecord entry))
      (stateAfter (edit .groupInfo (.group someGroup) (EditM.set "info" "name" "1")) (fresh 5))
    have joined : Runs {} (fresh 5) d₁ :=
      ((Runs.refl _).act (.edit .groupInfo (.group someGroup) (.set "info" "name" "1")) trivial).act
        (.edit .userGroups .account (.setRecord entry)) trivial
    have stored : (d₁.store.row? ((Scope.group someGroup).cell .groupInfo)).isSome = true := by
      decide +kernel
    obtain ⟨bytes, stored⟩ := Option.isSome_iff_exists.mp stored
    let d := stateAfter close (d₁.opened fresh.ring {})
    have run : Runs {} (fresh 5) d := (joined.reopen fresh.ring {} trivial).act .close trivial
    have works : d.store.Works := run.works (tidy_opened _ _ _) fun _ _ => rfl
    obtain ⟨d', wiped, -, -, unread, works', rows⟩ :=
      wipe_of_recorded works (show recordedGroups d = .ok [] d from rfl)
    have left : d'.store.row? ((Scope.group someGroup).cell .groupInfo) = some bytes := by
      -- no group is recorded, and none has a slot in the new session
      refine (rows _ bytes).mpr ⟨stored, fun swept => ?_⟩
      rcases swept.known with named | slot
      · cases named
      · exact absurd slot Std.ExtTreeMap.not_mem_empty
    have free : d'.store.row? ⟨.changeWatermarks, Variant.contacts.name⟩ = none :=
      Option.eq_none_iff_forall_ne_some.mpr fun bytes left =>
        ((rows _ bytes).mp left).2 (.watermarks .contacts)
    obtain ⟨d'', checked, written⟩ := checkChange_of_unread works' unread free "05aa" 10
    exact ⟨d, d', d'', ⟨_, fresh.ring, {}, fun key => ⟨rfl, rfl⟩, run⟩, works, wiped,
      ⟨bytes, left⟩, checked, written⟩
  · let d := stateAfter (edit .userGroups .account (EditM.set "groups" "x" "1")) (fresh 5)
    have run : Runs {} (fresh 5) d :=
      (Runs.refl _).act (.edit .userGroups .account (.set "groups" "x" "1")) trivial
    have works : d.store.Works := run.works (tidy_opened _ _ _) fun _ _ => rfl
    have facts : yields (attempt recordedGroups) d (fun groups => !groups.isOk) = true ∧
        (d.store.row? (Scope.account.cell .userGroups)).isSome = true := by
      decide +kernel
    obtain ⟨unread, row⟩ := facts
    obtain ⟨bytes, stored⟩ := Option.isSome_iff_exists.mp row
    have looked := leaves_recordedGroups d
    cases ran : recordedGroups d with
    | ok groups d' =>
      rw [yields, attempt, ran] at unread
      cases unread
    | error error d' =>
      rw [stateAfter_of_error ran] at looked
      refine ⟨d, d', error, ⟨_, fresh.ring, {}, fun key => ⟨rfl, rfl⟩, run⟩, works,
        bind_of_error ran, bytes, ?_⟩
      unfold Store.row? at stored ⊢
      rw [looked.rows]
      exact stored

end Device

end ConfigReplica
