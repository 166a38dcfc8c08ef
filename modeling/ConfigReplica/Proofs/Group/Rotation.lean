import ConfigReplica.Proofs.Group.Generations
import ConfigReplica.Proofs.Object.History
import Mathlib.Logic.Function.Basic

/-!
# Rotating keys on several replicas

Any number of replicas of one group's keys rotate the key and tell each other
(`GroupKey.Net`). A replica *knows of* a key if it made it, or merged a push of a
replica that knew of it. What a replica knows of never shrinks, so nothing would be
lost if the records of a replica were all the keys it knows of.

They are not. A key is filed under its generation, and replicas that have not heard of
each other's keys give the next generation to different ones. Two such rivals fall
under one key of the collection, where the greater entry replaces the other, although
nothing may be removed there. `GroupKey.kept_iff_unbeaten` is the exact condition: the
records of a replica are the keys it knows of that are not beaten by a rival it knows
of as well. `GroupKey.key_lost_to_rival` is a run in which the maker of a key loses it
by merging the push of another replica.

The invariant (`GroupKey.Net.Sound`) says of every replica that its state is the sum of
the entries of the keys it knows of, and the same of every push with regard to the
keys its sender knew of. Rotation adds one entry to this sum, under a generation that
was free; a merge adds the two sums up. An update whose identifier is remembered was
merged before under that identifier, so its entries are covered already
(`GroupKey.Informed.remembered`).
-/

namespace ConfigReplica.Config

namespace GroupKey

/-! ### The network -/

/-- A key that was made, and the entry that its maker wrote for it. -/
structure Making where
  key : GroupKey
  entry : Entry

/-- The making of a key by an edit that works on a draft. -/
def Making.on (d : Draft) (k : GroupKey) : Making :=
  { key := k
    entry := d.entry Collection.keys (keyOf k.generation) (some (Record.encode k)) }

/-- A push on its way, and the keys that its sender knew of. -/
structure Message where
  id : String
  frame : PushFrame
  known : List Making

/-- Replicas of one group's keys. -/
structure Net (ι : Type) where
  object : ι → Object
  /-- The keys that a replica made, or was told of by those who knew of them. -/
  known : ι → List Making := fun _ => []
  /-- All keys that were made. -/
  made : List Making := []
  /-- All pushes that were handed out. -/
  sent : List Message := []

namespace Net

variable {ι : Type} [DecidableEq ι]

/-- The network once a replica has become another object and knows of more keys. -/
def learn (n : Net ι) (i : ι) (o : Object) (more : List Making) : Net ι :=
  { n with
    object := Function.update n.object i o
    known := Function.update n.known i (n.known i ++ more) }

/-- **One event** in the network: a replica rotates the key, hands out a push, or
merges one. An identifier stands for one update. -/
inductive Step : Net ι → Net ι → Prop
  | rekey {n : Net ι} (i : ι) (now : Int64) (entropy : Entropy) {done : Edited GroupKey}
      {k : GroupKey} (ran : (n.object i).edit now entropy rekey = .ok done)
      (ended : done.result = .ok k) :
      Step n { n.learn i done.object [.on ((n.object i).draft now entropy) k] with
        made := n.made ++ [.on ((n.object i).draft now entropy) k] }
  | push {n : Net ι} (i : ι) (id : String)
      (own : ∀ m ∈ n.sent, m.id = id → m.frame.pack = (n.object i).push.data) :
      Step n { n with sent := n.sent ++ [⟨id, (n.object i).pushFrame, n.known i⟩] }
  | merge {n : Net ι} (i : ι) {m : Message} (sent : m ∈ n.sent) {changed : Bool} {o : Object}
      (accepted : (n.object i).merge m.id m.frame.pack = .ok (changed, o)) :
      Step n (n.learn i o m.known)

/-- **The runs** of a network whose replicas start without keys. -/
inductive Reached (scope : Scope) (origin : ι → UInt64) : Net ι → Prop
  | start : Reached scope origin { object := fun i => .blank .groupKeys scope (origin i) }
  | next {n n' : Net ι} (past : Reached scope origin n) (step : Step n n') :
      Reached scope origin n'

end Net

/-! ### The invariant -/

/-- The entries of some keys, where they are filed. -/
def filed (known : List Making) : Set Write :=
  {w | ∃ m ∈ known, w = (Collection.keys, keyOf m.key.generation, m.entry)}

/-- The entries of two lists of keys are those of both. -/
theorem filed_append (known more : List Making) :
    filed (known ++ more) = filed known ∪ filed more := by
  ext w
  simp only [filed, Set.mem_ofPred_eq, Set.mem_union, List.mem_append]
  constructor
  · rintro ⟨m, mem | mem, rfl⟩
    · exact .inl ⟨m, mem, rfl⟩
    · exact .inr ⟨m, mem, rfl⟩
  · rintro (⟨m, mem, rfl⟩ | ⟨m, mem, rfl⟩)
    · exact ⟨m, .inl mem, rfl⟩
    · exact ⟨m, .inr mem, rfl⟩

/-- **What a replica has made of its knowledge.** -/
structure Informed (sent : List Message) (o : Object) (known : List Making) : Prop where
  variant : o.variant = .groupKeys
  live : o.destroyed = false
  /-- The state is the sum of the entries of known keys. -/
  sums : o.state.Sums (filed known)
  /-- The update of a remembered identifier was read, and is covered. -/
  remembered : ∀ id ∈ o.mergedIds, ∃ m ∈ sent, m.id = id ∧
    ∃ s, o.readUpdate m.frame.pack = .ok s ∧ ∀ w ∈ s.entries, o.state.Covers w.1 w.2.1 w.2.2

/-- Entries stand for the keys they were written for. -/
def Honest (known : List Making) : Prop :=
  ∀ m ∈ known, m.entry.value = some (Record.encode m.key)

section Informed

variable {sent : List Message} {o : Object} {known : List Making}

/-- What is visible in the collection of keys is a known key. -/
theorem Informed.exists_making (inv : Informed sent o known) (honest : Honest known)
    {key text : String} (shown : o.state.get? Collection.keys key = some text) :
    ∃ m ∈ known, keyOf m.key.generation = key ∧ Record.encode m.key = text ∧
      o.state.find? Collection.keys key = some m.entry := by
  obtain ⟨e, found, value⟩ := Option.bind_eq_some_iff.mp shown
  obtain ⟨m, mem, same⟩ := inv.sums.known found
  obtain ⟨-, rfl, rfl⟩ : Collection.keys = Collection.keys ∧ key = _ ∧ e = _ := by
    simpa using same
  rw [honest m mem] at value
  exact ⟨m, mem, rfl, Option.some.inj value, found⟩

/-- Known keys are in their places. -/
theorem Informed.inPlace (inv : Informed sent o known) (honest : Honest known) :
    o.state.Every InPlace := by
  rintro collection key e found -
  obtain ⟨m, mem, same⟩ := inv.sums.known found
  obtain ⟨-, rfl, rfl⟩ : collection = Collection.keys ∧ key = keyOf m.key.generation ∧
      e = m.entry := by
    simpa using same
  exact ⟨m.key, rfl, honest m mem⟩

/-- **The records of a replica** are the known keys that no known rival beats. -/
theorem Informed.mem_records_iff (inv : Informed sent o known) (honest : Honest known) :
    ∃ keys, o.records GroupKey = .ok keys ∧
      ∀ k, k ∈ keys ↔ ∃ m ∈ known, m.key = k ∧
        ∀ m' ∈ known, m'.key.generation = k.generation → m'.entry ≤ m.entry := by
  obtain ⟨keys, read, mem_iff, -⟩ :=
    State.records_of_files isSound_shape (files_of_inPlace (inv.inPlace honest))
  refine ⟨keys, (Object.records_of_home inv.variant.symm).trans read, fun k => ?_⟩
  rw [mem_iff]
  constructor
  · -- what shows is known, and the greatest of all that is known under its key
    intro shown
    obtain ⟨m, mem, key, text, found⟩ := inv.exists_making honest shown
    obtain rfl : m.key = k := Record.encode_injective isSound_shape text
    refine ⟨m, mem, rfl, fun m' mem' same => ?_⟩
    refine (inv.sums.find?_eq_some_iff.mp found).2 ⟨m', mem', ?_⟩
    change (_, keyOf m.key.generation, _) = _
    rw [same]
  · rintro ⟨m, mem, rfl, greatest⟩
    have found : o.state.find? Collection.keys (keyOf m.key.generation) = some m.entry := by
      refine inv.sums.find?_eq_some_iff.mpr ⟨⟨m, mem, rfl⟩, ?_⟩
      rintro e ⟨m', mem', same⟩
      obtain ⟨-, key, rfl⟩ :
          Collection.keys = Collection.keys ∧ keyOf m.key.generation = _ ∧ e = m'.entry := by
        simpa using same
      exact greatest m' mem' (keyOf_injective key).symm
    change o.state.get? Collection.keys (keyOf m.key.generation) = _
    rw [State.get?, found]
    exact honest m mem

/-- **Rotation succeeds**, and writes a key of a generation above all known ones. -/
theorem Informed.rekey_eq (inv : Informed sent o known) (honest : Honest known)
    (room : ∀ m ∈ known, m.key.generation.toNat + 1 < UInt64.size) (now : Int64)
    (entropy : Entropy) :
    ∃ (done : Edited GroupKey) (k : GroupKey), o.edit now entropy rekey = .ok done ∧
      done.result = .ok k ∧
      (∀ bound, (∀ m ∈ known, m.key.generation.toNat < bound) → k.generation.toNat ≤ bound) ∧
      done.object = o.revise (o.state.put Collection.keys (keyOf k.generation)
        (Making.on (o.draft now entropy) k).entry) := by
  obtain ⟨keys, read, mem_iff, -⟩ :=
    State.records_of_files isSound_shape (files_of_inPlace (inv.inPlace honest))
  have listed : ∀ k ∈ keys, ∃ m ∈ known, m.key = k := by
    intro k mem
    obtain ⟨m, mem, -, text, -⟩ := inv.exists_making honest ((mem_iff k).mp mem)
    exact ⟨m, mem, Record.encode_injective isSound_shape text⟩
  -- records are known keys, so there is a generation left above them
  have new := find?_nextGeneration (inv.inPlace honest) read fun k mem => by
    obtain ⟨m, isKnown, rfl⟩ := listed k mem
    exact room m isKnown
  obtain ⟨k, rest, next, ran⟩ := GroupKey.rekey_eq (d := o.draft now entropy) inv.variant read new
  refine ⟨_, k, Object.edit_of_ok inv.live ran, rfl, ?_, ?_⟩
  · intro bound below
    rw [next]
    refine toNat_nextGeneration_le fun k mem => ?_
    obtain ⟨m, isKnown, rfl⟩ := listed k mem
    exact below m isKnown
  · have free : (o.draft now entropy).state.find? Collection.keys (keyOf k.generation) = none := by
      rw [next]
      exact new
    simp only [Making.on, Draft.entry, Draft.stamp, free]
    rfl

/-- A replica that rotated the key knows of it. -/
theorem Informed.rekeyed (inv : Informed sent o known) (m : Making) :
    Informed sent (o.revise (o.state.put Collection.keys (keyOf m.key.generation) m.entry))
      (known ++ [m]) := by
  refine ⟨?_, ?_, ?_, ?_⟩
  · rw [Object.variant_revise]
    exact inv.variant
  · rw [Object.destroyed_revise]
    exact inv.live
  · -- the new key is one more entry that the state sums up
    have one : filed [m] = {(Collection.keys, keyOf m.key.generation, m.entry)} := by
      ext w
      simp [filed]
    rw [Object.state_revise, filed_append, one, Set.union_singleton]
    exact inv.sums.put _ _ _
  · rw [Object.mergedIds_revise]
    intro id mem
    -- what is remembered as merged is covered still, as putting an entry in only adds
    obtain ⟨told, mem, same, s, read, covered⟩ := inv.remembered id mem
    refine ⟨told, mem, same, s, ?_, fun w mem => ?_⟩
    · rw [Object.readUpdate_congr (Object.variant_revise _ _)]
      exact read
    · rw [Object.state_revise]
      exact (covered w mem).put

/-- A replica that merged a push knows what its sender knew of. -/
theorem Informed.merged (inv : Informed sent o known) {m : Message} (mem : m ∈ sent)
    (told : m.frame.state.Sums (filed m.known))
    (unique : ∀ m' ∈ sent, m'.id = m.id → m'.frame.pack = m.frame.pack) {changed : Bool}
    {o' : Object} (accepted : o.merge m.id m.frame.pack = .ok (changed, o')) :
    Informed sent o' (known ++ m.known) := by
  rcases Object.merge_cases accepted with ⟨again, rfl⟩ | ⟨s, read, rfl⟩
  · -- the same update was read before, and all that the sender knew of is covered
    obtain ⟨m', mem', same, s, read, covered⟩ :=
      inv.remembered m.id (by simpa [Object.hasMerged] using again)
    rw [unique m' mem' same] at read
    obtain rfl := Object.state_of_readUpdate_pack read
    refine ⟨inv.variant, inv.live, ?_, inv.remembered⟩
    rw [filed_append]
    refine inv.sums.extend Set.subset_union_left fun collection key e mem => ?_
    rcases mem with mem | mem
    · exact inv.sums.covered mem
    · obtain ⟨held, found, le⟩ := told.covered mem
      exact (covered _ (State.mem_entries_iff.mpr found)).mono le
  · obtain rfl := Object.state_of_readUpdate_pack read
    refine ⟨inv.variant, inv.live, ?_, fun id remembered => ?_⟩
    · rw [filed_append]
      exact inv.sums.join told
    · rcases List.mem_append.mp (Object.mem_keepLast remembered) with old | this
      · obtain ⟨m', mem', same, s, read', covered⟩ := inv.remembered id old
        exact ⟨m', mem', same, s, read', fun w mem => (covered w mem).putAll _⟩
      · obtain rfl := List.mem_singleton.mp this
        exact ⟨m, mem, rfl, _, read, fun w mem => State.covers_putAll mem⟩

end Informed

namespace Net

variable {ι : Type} [DecidableEq ι] {scope : Scope} {origin : ι → UInt64} {n n' : Net ι}

/-- **The invariant of the network.** -/
structure Sound (n : Net ι) : Prop where
  informed : ∀ i, Informed n.sent (n.object i) (n.known i)
  honest : Honest n.made
  /-- Generations are below the number of keys that were made. -/
  climbs : ∀ m ∈ n.made, m.key.generation.toNat < n.made.length
  known : ∀ i, n.known i ⊆ n.made
  /-- Pushes carry the entries of the keys that their senders knew of. -/
  told : ∀ m ∈ n.sent, m.frame.state.Sums (filed m.known)
  knownToSender : ∀ m ∈ n.sent, m.known ⊆ n.made
  /-- An identifier stands for one update. -/
  unique : ∀ m ∈ n.sent, ∀ m' ∈ n.sent, m'.id = m.id → m'.frame.pack = m.frame.pack

omit [DecidableEq ι] in
/-- At the start nobody knows of any key. -/
theorem Sound.start :
    Sound { object := fun i : ι => .blank .groupKeys scope (origin i) } where
  informed i := by
    refine ⟨rfl, rfl, ?_, fun id mem => absurd mem List.not_mem_nil⟩
    have nothing : filed [] = ∅ := by
      ext w
      simp [filed]
    rw [nothing]
    exact State.sums_empty
  honest _ mem := absurd mem List.not_mem_nil
  climbs _ mem := absurd mem List.not_mem_nil
  known _ _ mem := absurd mem List.not_mem_nil
  told _ mem := absurd mem List.not_mem_nil
  knownToSender _ mem := absurd mem List.not_mem_nil
  unique _ mem := absurd mem List.not_mem_nil

/-- What holds of every replica holds after one of them learned, if it holds of that one. -/
theorem forall_learn {P : ι → Object → List Making → Prop} {i : ι} {o : Object}
    {more : List Making} (others : ∀ j, P j (n.object j) (n.known j))
    (this : P i o (n.known i ++ more)) (j : ι) :
    P j ((n.learn i o more).object j) ((n.learn i o more).known j) := by
  unfold learn
  by_cases same : j = i
  · subst same
    simpa only [Function.update_self] using this
  · simpa only [Function.update_of_ne same] using others j

/-- A replica that learned is informed if it was told of what it learned. -/
theorem learn_informed {sent : List Message} {i : ι} {o : Object} {more : List Making}
    (others : ∀ j, Informed sent (n.object j) (n.known j))
    (this : Informed sent o (n.known i ++ more)) (j : ι) :
    Informed sent ((n.learn i o more).object j) ((n.learn i o more).known j) :=
  forall_learn (P := fun _ => Informed sent) others this j

/-- What a replica learns was made. -/
theorem learn_known {made : List Making} {i : ι} (o : Object) {more : List Making}
    (others : ∀ j, n.known j ⊆ made) (this : more ⊆ made) (j : ι) :
    (n.learn i o more).known j ⊆ made :=
  forall_learn (P := fun _ _ known => known ⊆ made) others
    (List.append_subset.mpr ⟨others i, this⟩) j

/-- Nobody forgets. -/
theorem known_subset_learn (i : ι) (o : Object) (more : List Making) (j : ι) :
    n.known j ⊆ (n.learn i o more).known j :=
  forall_learn (P := fun j _ known => n.known j ⊆ known) (fun _ => List.Subset.refl _)
    (List.subset_append_left _ _) j

/-- Rotation keeps the invariant, while there are generations left. -/
theorem Sound.rekey (inv : Sound n) {i : ι} {now : Int64} {entropy : Entropy}
    {done : Edited GroupKey} {k : GroupKey}
    (ran : (n.object i).edit now entropy GroupKey.rekey = .ok done) (ended : done.result = .ok k)
    (few : n.made.length < UInt64.size) :
    Sound { n.learn i done.object [.on ((n.object i).draft now entropy) k] with
      made := n.made ++ [.on ((n.object i).draft now entropy) k] } := by
  have honest : Honest (n.known i) := fun m mem => inv.honest m (inv.known i mem)
  have room : ∀ m ∈ n.known i, m.key.generation.toNat + 1 < UInt64.size := by
    intro m mem
    exact Nat.lt_of_le_of_lt (inv.climbs m (inv.known i mem)) few
  obtain ⟨done', k', ran', ended', bound, object⟩ :=
    (inv.informed i).rekey_eq honest room now entropy
  -- the edit that ran is the one that is known to succeed
  obtain rfl : done = done' := Except.ok.inj (ran.symm.trans ran')
  obtain rfl : k = k' := Except.ok.inj (ended.symm.trans ended')
  let m := Making.on ((n.object i).draft now entropy) k
  have grown : n.made ⊆ n.made ++ [m] := List.subset_append_left _ _
  refine ⟨?_, ?_, ?_, ?_, inv.told, ?_, inv.unique⟩
  · refine learn_informed inv.informed ?_
    rw [object]
    exact (inv.informed i).rekeyed m
  · intro m' mem
    rcases List.mem_append.mp mem with old | this
    · exact inv.honest m' old
    · rw [List.mem_singleton.mp this]
      rfl
  · -- one key more was made, and its generation is at most one above the others
    intro m' mem
    change _ < (n.made ++ [m]).length
    rw [List.length_append, List.length_singleton]
    rcases List.mem_append.mp mem with old | this
    · exact Nat.lt_succ_of_lt (inv.climbs m' old)
    · rw [List.mem_singleton.mp this]
      exact Nat.lt_succ_of_le (bound _ fun m mem => inv.climbs m (inv.known i mem))
  · exact learn_known done.object (fun j => List.Subset.trans (inv.known j) grown)
      (List.subset_append_right _ _)
  · exact fun m' mem => List.Subset.trans (inv.knownToSender m' mem) grown

omit [DecidableEq ι] in
/-- Handing out a push keeps the invariant. -/
theorem Sound.push (inv : Sound n) {i : ι} {id : String}
    (own : ∀ m ∈ n.sent, m.id = id → m.frame.pack = (n.object i).push.data) :
    Sound { n with sent := n.sent ++ [⟨id, (n.object i).pushFrame, n.known i⟩] } := by
  have cases : ∀ {m}, m ∈ n.sent ++ [⟨id, (n.object i).pushFrame, n.known i⟩] →
      m ∈ n.sent ∨ m = ⟨id, (n.object i).pushFrame, n.known i⟩ := by
    intro m mem
    rcases List.mem_append.mp mem with mem | mem
    · exact .inl mem
    · exact .inr (List.mem_singleton.mp mem)
  refine ⟨fun j => ?_, inv.honest, inv.climbs, inv.known, ?_, ?_, ?_⟩
  · -- what the replicas remember was sent before this push
    obtain ⟨variant, live, sums, remembered⟩ := inv.informed j
    refine ⟨variant, live, sums, fun id mem => ?_⟩
    obtain ⟨m, mem, rest⟩ := remembered id mem
    exact ⟨m, List.mem_append_left _ mem, rest⟩
  · intro m mem
    rcases cases mem with mem | rfl
    · exact inv.told m mem
    · exact (inv.informed i).sums
  · intro m mem
    rcases cases mem with mem | rfl
    · exact inv.knownToSender m mem
    · exact inv.known i
  · -- the identifier of a push that was handed out again names the same update
    intro m mem m' mem' same
    rcases cases mem with old | rfl <;> rcases cases mem' with old' | rfl
    · exact inv.unique m old m' old' same
    · exact (own m old same.symm).symm
    · exact own m' old' same
    · rfl

/-- **Every event keeps the invariant**, as long as there are generations left. -/
theorem Sound.step (inv : Sound n) (step : Step n n') (few : n'.made.length ≤ UInt64.size) :
    Sound n' := by
  cases step with
  | rekey i now entropy ran ended =>
    have before : n.made.length + 1 ≤ UInt64.size := by simpa using few
    exact inv.rekey ran ended before
  | push i id own => exact inv.push own
  | merge i sent accepted =>
    have told := inv.told _ sent
    have unique := inv.unique _ sent
    refine ⟨?_, inv.honest, inv.climbs, ?_, inv.told, inv.knownToSender, inv.unique⟩
    · exact learn_informed inv.informed ((inv.informed i).merged sent told unique accepted)
    · exact learn_known _ inv.known (inv.knownToSender _ sent)

/-- What was made stays made, and what a replica knows of it keeps knowing. -/
theorem Step.grows (step : Step n n') :
    n.made.length ≤ n'.made.length ∧ ∀ i, n.known i ⊆ n'.known i := by
  cases step with
  | @rekey i now entropy done k ran ended =>
    refine ⟨?_, known_subset_learn i done.object [.on ((n.object i).draft now entropy) k]⟩
    rw [List.length_append]
    exact Nat.le_add_right _ _
  | push i id own => exact ⟨Nat.le_refl _, fun j => List.Subset.refl _⟩
  | @merge i m sent changed o accepted => exact ⟨Nat.le_refl _, known_subset_learn i o m.known⟩

/-- **Every replica leads a life**: what is said of the lives of objects holds of the
replicas of a network. -/
theorem Reached.life (run : Reached scope origin n) :
    ∀ i, ∃ h, Object.Reached .groupKeys scope (origin i) (n.object i) h := by
  induction run with
  | start => exact fun i => ⟨{}, .start⟩
  | @next n n' past step ih =>
    have learned {i : ι} {o : Object} (more : List Making)
        (this : ∃ h, Object.Reached .groupKeys scope (origin i) o h) (j : ι) :
        ∃ h, Object.Reached .groupKeys scope (origin j) ((n.learn i o more).object j) h :=
      forall_learn (P := fun j o _ => ∃ h, Object.Reached .groupKeys scope (origin j) o h) ih this j
    cases step with
    | @rekey i now entropy done k ran ended =>
      obtain ⟨h, life⟩ := ih i
      exact learned [.on ((n.object i).draft now entropy) k]
        ⟨_, life.next (.edit rekeyPlan now entropy ran)⟩
    | push i id own => exact ih
    | @merge i m sent changed o accepted =>
      obtain ⟨h, life⟩ := ih i
      exact learned m.known ⟨_, life.next (.merge accepted)⟩

/-- The invariant holds along every run in which the generations suffice. -/
theorem Reached.sound (run : Reached scope origin n) (few : n.made.length ≤ UInt64.size) :
    Sound n := by
  induction run with
  | start => exact .start
  | next past step ih => exact (ih (Nat.le_trans step.grows.1 few)).step step few

end Net

/-! ### The theorem -/

/-- **Which keys are kept.** What a replica knows of it keeps knowing, and its records
are the known keys that no known key of the same generation beats: a key is lost
exactly to such a rival. Generations have 64 bits, so this holds while no more than
that many keys were made. -/
theorem kept_iff_unbeaten {ι : Type} [DecidableEq ι] {scope : Scope} {origin : ι → UInt64}
    {n : Net ι} (run : Net.Reached scope origin n) (few : n.made.length ≤ UInt64.size) (i : ι) :
    (∀ n', Net.Step n n' → n.known i ⊆ n'.known i) ∧
    ∃ keys, (n.object i).records GroupKey = .ok keys ∧
      ∀ k, k ∈ keys ↔ ∃ m ∈ n.known i, m.key = k ∧
        ∀ m' ∈ n.known i, m'.key.generation = k.generation → m'.entry ≤ m.entry := by
  have inv := run.sound few
  obtain ⟨keys, read, mem_iff⟩ := (inv.informed i).mem_records_iff
    fun m mem => inv.honest m (inv.known i mem)
  exact ⟨fun n' step => step.grows.2 i, keys, read, mem_iff⟩

/-- Two replicas rotate the key before they hear of each other, and then the first one merges the
push of the second. Their keys have one generation, and the entry of the second is the greater. -/
theorem exists_rivals :
    ∃ (group : GroupId) (n n' : Net Bool) (m rival : Making),
      Net.Reached (.group group) (fun i => if i then 2 else 1) n ∧ Net.Step n n' ∧
      n.made.length = 2 ∧ n'.made.length = 2 ∧
      n.known false = [m] ∧ n'.known false = [m, rival] ∧ m.entry.origin = 1 ∧
      m.key.generation = rival.key.generation ∧ m.key ≠ rival.key ∧ m.entry < rival.entry := by
  have rotated : ∃ (group : GroupId) (n : Net Bool) (m rival : Making),
      Net.Reached (.group group) (fun i => if i then 2 else 1) n ∧ n.made.length = 2 ∧
      n.sent = [⟨"m", (n.object true).pushFrame, [rival]⟩] ∧ n.known false = [m] ∧
      (n.object false).destroyed = false ∧ (n.object false).mergedIds = [] ∧
      m.entry.origin = 1 ∧ m.key.generation = rival.key.generation ∧
      m.key ≠ rival.key ∧ m.entry < rival.entry ∧
      (n.object true).pushFrame.length ≤ maxSize ∧
      (n.object true).state.check .groupKeys = .ok () := by
    -- two rotations and a push, the first of them at the earlier time
    refine ⟨⟨3, Vector.replicate 32 0x33⟩, _, _, _,
      .next (.next (.next .start
          (.rekey false 100 (.constant 1) rfl rfl))
          (.rekey true 200 (.constant 2) rfl rfl))
        (.push true "m" nofun),
      rfl, rfl, rfl, rfl, rfl, rfl, rfl, ?_, ?_, ?_, ?_⟩
    iterate 4 decide +kernel
  obtain ⟨group, n, m, rival, run, two, sent, known, live, fresh, maker, same, differ, beaten,
    short, fine⟩ := rotated
  have inv := run.sound (by rw [two]; decide)
  have told : ⟨"m", (n.object true).pushFrame, [rival]⟩ ∈ n.sent := by
    rw [sent]
    exact List.mem_singleton.mpr rfl
  -- the push is read, as it is short and its state fits, and its identifier is new
  have read : (n.object false).readUpdate (n.object true).pushFrame.pack =
      .ok (n.object true).state := by
    have alike : (n.object false).variant = (n.object true).variant :=
      (inv.informed false).variant.trans (inv.informed true).variant.symm
    have read := Object.readUpdate_push (n.object true) (n.object false) alike
    rwa [if_neg (not_lt.mpr short), (inv.informed true).variant, fine] at read
  have accepted : (n.object false).merge "m" (n.object true).pushFrame.pack =
      .ok ((n.object false).state.joinReveals (n.object true).state,
        (n.object false).absorb "m" (n.object true).state) := by
    rw [Object.merge, live, Object.hasMerged, fresh, read]
    rfl
  refine ⟨group, n, _, m, rival, run, .merge false told accepted, two, two, known, ?_, maker, same,
    differ, beaten⟩
  simp only [Net.learn, Function.update_self, known]
  rfl

/-- A key that a rival beats is not among the records of a replica that knows of both. -/
theorem notMem_of_beaten {keys : List GroupKey} {m rival : Making}
    (mem_iff : ∀ k, k ∈ keys ↔ ∃ m₁ ∈ [m, rival], m₁.key = k ∧
      ∀ m₂ ∈ [m, rival], m₂.key.generation = k.generation → m₂.entry ≤ m₁.entry)
    (same : m.key.generation = rival.key.generation) (differ : m.key ≠ rival.key)
    (beaten : m.entry < rival.entry) : m.key ∉ keys := by
  intro mem
  obtain ⟨m', mem', key, greatest⟩ := (mem_iff m.key).mp mem
  have heard : rival ∈ [m, rival] := List.mem_cons_of_mem _ (List.mem_singleton.mpr rfl)
  rcases List.mem_cons.mp mem' with rfl | that
  · exact absurd (greatest rival heard same.symm) (not_le.mpr beaten)
  · -- what is filed by the rival is another key
    rw [List.mem_singleton.mp that] at key
    exact differ key.symm

/-- Of two keys of one generation that it knows of, a replica keeps the one with the greater
entry. -/
theorem kept_iff_unbeaten_rivals :
    ∃ (group : GroupId) (n : Net Bool) (m rival : Making) (keys : List GroupKey),
      Net.Reached (.group group) (fun i => if i then 2 else 1) n ∧
      n.made.length ≤ UInt64.size ∧ n.known false = [m, rival] ∧
      m.key.generation = rival.key.generation ∧ m.key ≠ rival.key ∧
      (n.object false).records GroupKey = .ok keys ∧ m.key ∉ keys ∧ rival.key ∈ keys := by
  obtain ⟨group, _, n, m, rival, past, step, -, two, -, known, -, same, differ, beaten⟩ :=
    exists_rivals
  have run := past.next step
  have few : n.made.length ≤ UInt64.size := by rw [two]; decide
  obtain ⟨-, keys, read, mem_iff⟩ := kept_iff_unbeaten run few false
  rw [known] at mem_iff
  refine ⟨group, n, m, rival, keys, run, few, known, same, differ, read,
    notMem_of_beaten mem_iff same differ beaten, (mem_iff rival.key).mpr ?_⟩
  refine ⟨rival, List.mem_cons_of_mem _ (List.mem_singleton.mpr rfl), rfl, fun m' mem' _ => ?_⟩
  rcases List.mem_cons.mp mem' with rfl | that
  · exact le_of_lt beaten
  · exact le_of_eq (congrArg Making.entry (List.mem_singleton.mp that))

/-- **A key lost to a rival.** Two replicas rotate the key before they hear of each
other, and the first one merges the push of the second. The key that it made was among
its records before, and is not any more. -/
theorem key_lost_to_rival :
    ∃ (group : GroupId) (n n' : Net Bool) (m : Making) (keys keys' : List GroupKey),
      Net.Reached (.group group) (fun i => if i then 2 else 1) n ∧ Net.Step n n' ∧
      m.entry.origin = 1 ∧
      (n.object false).records GroupKey = .ok keys ∧ m.key ∈ keys ∧
      (n'.object false).records GroupKey = .ok keys' ∧ m.key ∉ keys' := by
  obtain ⟨group, n, n', m, rival, run, step, two, two', known, known', maker, same, differ,
    beaten⟩ := exists_rivals
  have inv := run.sound (by rw [two]; decide)
  have inv' := inv.step step (by rw [two']; decide)
  obtain ⟨keys, listed, mem_iff⟩ := (inv.informed false).mem_records_iff
    fun m mem => inv.honest m (inv.known false mem)
  obtain ⟨keys', listed', mem_iff'⟩ := (inv'.informed false).mem_records_iff
    fun m mem => inv'.honest m (inv'.known false mem)
  rw [known] at mem_iff
  rw [known'] at mem_iff'
  -- as long as the key is the only one, nothing beats it
  have alone : m.key ∈ keys := by
    refine (mem_iff m.key).mpr ⟨m, List.mem_singleton.mpr rfl, rfl, fun m' mem' _ => ?_⟩
    rw [List.mem_singleton.mp mem']
  exact ⟨group, n, n', m, keys, keys', run, step, maker, listed, alone, listed',
    notMem_of_beaten mem_iff' same differ beaten⟩

end GroupKey

end ConfigReplica.Config
