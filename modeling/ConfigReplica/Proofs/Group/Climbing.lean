import ConfigReplica.Proofs.Group.Generations
import ConfigReplica.Proofs.Object.History

/-!
# Rotation climbs

Nothing but `setRecord` and `rekey` writes keys of a group, here and wherever pushes come
from. What is written then stands in its place, each key under its own generation
(`GroupKey.InPlace`), and a merge takes over entries as they stand. This is the invariant
(`GroupKey.Ring.orderly`).

It makes the last of the records the newest one (`GroupKey.Lists.current`), since records
are listed in the order of their keys, and twenty digits are ordered as numbers. It also
makes the next generation free, so that a rotation replaces nothing and its key comes
last from then on (`GroupKey.rotation_climbs`).
-/

namespace ConfigReplica.Config

namespace GroupKey

/-! ### Rings of keys -/

/-- The text under the key is that of a group's key of this generation. -/
def SetsKey (collection key json : String) : Prop :=
  collection = Collection.keys →
    ∃ k : GroupKey, keyOf k.generation = key ∧ Record.encode k = json

/-- Storing a key sets nothing else. -/
theorem setsKey_setRecord (k : GroupKey) : (EditM.Plan.setRecord k).Sets SetsKey :=
  ⟨trivial, fun _ _ => ⟨k, rfl, rfl⟩⟩

/-- And neither does rotation. -/
theorem setsKey_rekeyPlan : rekeyPlan.Sets SetsKey :=
  ⟨⟨trivial, fun _ => trivial⟩, fun _ =>
    ⟨trivial, fun _ => ⟨⟨setsKey_setRecord _, fun _ => trivial⟩, fun _ => trivial⟩⟩⟩

/-- **A ring of keys**: an object that edits which set nothing but keys have led to, and merges of
pushes of other rings. Acknowledgements and storing it in between make no difference. -/
inductive Ring : Object → Prop
  | start (scope : Scope) (origin : UInt64) : Ring (.blank .groupKeys scope origin)
  | edit {o : Object} (past : Ring o) {α : Type} {step : EditM α} {plan : EditM.Plan step}
      (keys : plan.Sets SetsKey) (now : Int64) (entropy : Entropy) {done : Edited α}
      (ran : o.edit now entropy step = .ok done) : Ring done.object
  | merge {o peer o' : Object} (past : Ring o) (told : Ring peer) {id : String} {changed : Bool}
      (accepted : o.merge id peer.push.data = .ok (changed, o')) : Ring o'
  | confirm {o : Object} (past : Ring o) (seqno : UInt64) (hash : String) :
      Ring (o.confirm seqno hash)
  | reload {o o' : Object} (past : Ring o)
      (loaded : Object.load o.variant o.scope o.dump = .ok o') : Ring o'

/-! ### The invariant -/

/-- **All keys are in their places.** -/
structure Orderly (o : Object) : Prop where
  variant : o.variant = .groupKeys
  live : o.destroyed = false
  conforms : o.state.Every (Conforms .groupKeys)
  inPlace : o.state.Every InPlace

namespace Orderly

variable {o peer o' : Object}

/-- A new object has no keys. -/
theorem blank (scope : Scope) (origin : UInt64) : Orderly (.blank .groupKeys scope origin) where
  variant := rfl
  live := rfl
  conforms := State.every_empty
  inPlace := State.every_empty

/-- Steps that set nothing but keys leave all in their places. -/
theorem edit (inv : Orderly o) {α : Type} {step : EditM α} {plan : EditM.Plan step}
    (keys : plan.Sets SetsKey) {now : Int64} {entropy : Entropy} {done : Edited α}
    (ran : o.edit now entropy step = .ok done) : Orderly done.object := by
  have conforms : ∀ w ∈ plan.writes (o.draft now entropy), Conforms .groupKeys w := by
    have start : (o.draft now entropy).state.Every (Conforms (o.draft now entropy).variant) := by
      change o.state.Every (Conforms o.variant)
      rw [inv.variant]
      exact inv.conforms
    rw [← inv.variant]
    exact plan.conforms start
  have inPlace : ∀ w ∈ plan.writes (o.draft now entropy), InPlace w := by
    rintro ⟨collection, key, e⟩ mem (rfl : collection = Collection.keys)
    -- nothing is removed from the collection of keys
    obtain ⟨-, rule, declared, removal⟩ := conforms _ mem
    obtain rfl : MergeRule.addOnly = rule := Option.some.inj declared
    cases value : e.value with
    | none => cases removal value
    | some json =>
      obtain ⟨k, place, rfl⟩ := keys.writes _ _ mem json value rfl
      exact ⟨k, place, rfl⟩
  have state := Object.state_edit plan ran
  refine ⟨?_, ?_, ?_, ?_⟩
  · rw [Object.edit_cases ran, Object.variant_revise]
    exact inv.variant
  · rw [Object.edit_cases ran, Object.destroyed_revise]
    exact inv.live
  · rw [state]
    exact inv.conforms.putAll conforms
  · rw [state]
    exact inv.inPlace.putAll inPlace

/-- A merge takes over keys of an object in which all are in their places. -/
theorem merge (inv : Orderly o) (theirs : Orderly peer) {id : String} {changed : Bool}
    (accepted : o.merge id peer.push.data = .ok (changed, o')) : Orderly o' := by
  rcases Object.merge_cases accepted with ⟨-, rfl⟩ | ⟨s, read, rfl⟩
  · exact inv
  · obtain rfl := Object.state_of_readUpdate_pack read
    exact ⟨inv.variant, inv.live,
      inv.conforms.putAll (State.every_iff_entries.mp theirs.conforms),
      inv.inPlace.putAll (State.every_iff_entries.mp theirs.inPlace)⟩

/-- An acknowledgement changes no entry. -/
theorem confirm (inv : Orderly o) (seqno : UInt64) (hash : String) :
    Orderly (o.confirm seqno hash) := by
  unfold Object.confirm
  split
  · exact inv
  · exact ⟨inv.variant, inv.live, inv.conforms, inv.inPlace⟩

/-- An object that was stored has the entries that it had. -/
theorem reload (inv : Orderly o) (loaded : Object.load o.variant o.scope o.dump = .ok o') :
    Orderly o' := by
  rw [Object.reload_eq loaded]
  exact ⟨inv.variant, rfl, inv.conforms, inv.inPlace⟩

end Orderly

/-- All keys of a ring are in their places. -/
theorem Ring.orderly {o : Object} (ring : Ring o) : Orderly o := by
  induction ring with
  | start scope origin => exact .blank scope origin
  | edit past keys now entropy ran ih => exact ih.edit keys ran
  | merge past told accepted ih ihTold => exact ih.merge ihTold accepted
  | confirm past seqno hash ih => exact ih.confirm seqno hash
  | reload past loaded ih => exact ih.reload loaded

/-! ### The newest key -/

/-- **The newest of some keys**, if there are any: all others are of lower generations. -/
def IsNewest (keys : List GroupKey) : Option GroupKey → Prop
  | none => keys = []
  | some newest => newest ∈ keys ∧ ∀ k ∈ keys, k ≠ newest → k.generation < newest.generation

/-- There is but one. -/
theorem IsNewest.unique {keys : List GroupKey} {a b : Option GroupKey} (newest : IsNewest keys a)
    (newest' : IsNewest keys b) : a = b := by
  -- two newest keys would each be of a lower generation than the other
  cases a with
  | none =>
    obtain rfl : keys = [] := newest
    cases b with
    | none => rfl
    | some b => cases newest'.1
  | some a =>
    cases b with
    | none =>
      obtain rfl : keys = [] := newest'
      cases newest.1
    | some b =>
      by_contra differ
      have less := newest.2 b newest'.1 fun same => differ (congrArg some same.symm)
      have more := newest'.2 a newest.1 fun same => differ (congrArg some same)
      exact absurd (UInt64.lt_trans less more) (UInt64.lt_irrefl _)

/-- Among keys in the order in which they are listed, it comes last. -/
theorem isNewest_getLast? {keys : List GroupKey}
    (ordered : keys.Pairwise fun a b => compare (Record.key a) (Record.key b) = .lt) :
    IsNewest keys keys.getLast? := by
  cases last : keys.getLast? with
  | none => exact List.getLast?_eq_none_iff.mp last
  | some newest =>
    refine ⟨List.mem_of_getLast? last, fun k mem differs => ?_⟩
    obtain ⟨before, rfl⟩ := List.getLast?_eq_some_iff.mp last
    rcases List.mem_append.mp mem with mem | mem
    · exact generation_lt
        ((List.pairwise_append.mp ordered).2.2 k mem newest (List.mem_singleton.mpr rfl))
    · exact absurd (List.mem_singleton.mp mem) differs

/-- The number of the next generation. -/
theorem toNat_nextGeneration {keys : List GroupKey}
    (room : ∀ k ∈ keys, k.generation.toNat + 1 < UInt64.size) :
    (nextGeneration keys).toNat = keys.getLast?.elim 0 fun newest => newest.generation.toNat + 1 := by
  unfold nextGeneration
  cases last : keys.getLast? with
  | none => rfl
  | some newest =>
    have space := room newest (List.mem_of_getLast? last)
    have size : UInt64.size = 2 ^ 64 := rfl
    rw [UInt64.toNat_add, UInt64.toNat_one, Nat.mod_eq_of_lt (by omega)]
    rfl

/-- **What an object lists**: the keys that are found under their generations, in the order in which
they stand there. -/
structure Lists (o : Object) (keys : List GroupKey) : Prop where
  records : o.records GroupKey = .ok keys
  mem_iff : ∀ k, k ∈ keys ↔ o.record? GroupKey (keyOf k.generation) = .ok (some k)
  ordered : keys.Pairwise fun a b => compare (Record.key a) (Record.key b) = .lt

/-- The newest of the listed keys is current. -/
theorem Lists.current {o : Object} {keys : List GroupKey} (lists : Lists o keys) :
    GroupKey.current o = .ok keys.getLast? ∧ IsNewest keys keys.getLast? := by
  refine ⟨?_, isNewest_getLast? lists.ordered⟩
  rw [GroupKey.current, lists.records]
  rfl

/-- Such an object lists its keys. -/
theorem Orderly.lists {o : Object} (inv : Orderly o) : ∃ keys, Lists o keys := by
  have filed := files_of_inPlace inv.inPlace
  obtain ⟨keys, read, mem_iff, ordered⟩ := State.records_of_files isSound_shape filed
  refine ⟨keys, (Object.records_of_home inv.variant.symm).trans read, fun k => ?_, ordered⟩
  rw [mem_iff, Object.record?_of_home inv.variant.symm]
  exact (State.record?_eq_some_iff isSound_shape filed).symm

/-! ### Rotation -/

section Rekey

variable {o : Object} {keys : List GroupKey}

/-- **Rotation adds one key**, under a generation at which there was none. -/
theorem Orderly.rekey_eq (inv : Orderly o) (lists : Lists o keys)
    (room : ∀ k ∈ keys, k.generation.toNat + 1 < UInt64.size) (now : Int64) (entropy : Entropy) :
    ∃ done k e, o.edit now entropy rekey = .ok done ∧ done.result = .ok k ∧
      k.generation = nextGeneration keys ∧ e.value = some (Record.encode k) ∧
      o.state.find? Collection.keys (keyOf k.generation) = none ∧
      done.object.state = o.state.put Collection.keys (keyOf k.generation) e := by
  have read : o.state.records GroupKey = .ok keys :=
    (Object.records_of_home inv.variant.symm).symm.trans lists.records
  have free := find?_nextGeneration inv.inPlace read room
  obtain ⟨k, rest, next, ran⟩ :=
    GroupKey.rekey_eq (d := o.draft now entropy) inv.variant read free
  rw [← next] at free
  exact ⟨_, k, _, Object.edit_of_ok inv.live ran, rfl, next, rfl, free, Object.state_revise o _⟩

/-- The new key is found under its generation, and the other generations are left alone. -/
theorem Orderly.record?_rekey {o' : Object} {k : GroupKey} {e : Entry} (inv : Orderly o)
    (inv' : Orderly o') (text : e.value = some (Record.encode k))
    (free : o.state.find? Collection.keys (keyOf k.generation) = none)
    (state : o'.state = o.state.put Collection.keys (keyOf k.generation) e) :
    o'.record? GroupKey (keyOf k.generation) = .ok (some k) ∧
      ∀ generation, generation ≠ k.generation →
        o'.record? GroupKey (keyOf generation) = o.record? GroupKey (keyOf generation) := by
  have shown (key : String) : o'.state.get? Collection.keys key =
      if key = keyOf k.generation then e.value else o.state.get? Collection.keys key := by
    rw [state, State.get?_put_of_new free]
    simp only [true_and]
  constructor
  · rw [Object.record?_of_home inv'.variant.symm]
    refine (State.record?_eq_some_iff isSound_shape (files_of_inPlace inv'.inPlace)).mpr ?_
    exact ((shown _).trans (if_pos rfl)).trans text
  · intro generation other
    rw [Object.record?_of_home inv'.variant.symm, Object.record?_of_home inv.variant.symm]
    exact State.record?_congr ((shown _).trans (if_neg fun same => other (keyOf_injective same)))

/-- A key above all others is current once it is there. -/
theorem Lists.isNewest {o' : Object} {keys' : List GroupKey} {k : GroupKey} (lists : Lists o keys)
    (lists' : Lists o' keys') (above : ∀ k' ∈ keys, k'.generation < k.generation)
    (added : o'.record? GroupKey (keyOf k.generation) = .ok (some k))
    (others : ∀ generation, generation ≠ k.generation →
      o'.record? GroupKey (keyOf generation) = o.record? GroupKey (keyOf generation)) :
    IsNewest keys' (some k) := by
  -- a listed key of the same generation is the key itself, and any other was listed before
  refine ⟨(lists'.mem_iff k).mpr added, fun k' mem differs => ?_⟩
  have found := (lists'.mem_iff k').mp mem
  by_cases same : k'.generation = k.generation
  · rw [same, added] at found
    exact absurd (Option.some.inj (Except.ok.inj found)).symm differs
  · rw [others _ same] at found
    exact above k' ((lists.mem_iff k').mpr found)

end Rekey

/-- **Rotation climbs.** The current key of a ring is the one of the highest generation among all
that are found under their generations. While there is a generation left, rotation makes the key
of the next one, or of generation zero if there was none. This key is current from then on, and
under every other generation is found what was found there. -/
theorem rotation_climbs {o : Object} (ring : Ring o) :
    ∃ keys newest, o.records GroupKey = .ok keys ∧
      (∀ k, k ∈ keys ↔ o.record? GroupKey (keyOf k.generation) = .ok (some k)) ∧
      current o = .ok newest ∧ IsNewest keys newest ∧
      ((∀ k ∈ keys, k.generation.toNat + 1 < UInt64.size) → ∀ now entropy, ∃ done k,
        o.edit now entropy rekey = .ok done ∧ done.result = .ok k ∧
        k.generation.toNat = newest.elim 0 (fun k => k.generation.toNat + 1) ∧
        current done.object = .ok (some k) ∧
        ∀ generation, generation ≠ k.generation →
          done.object.record? GroupKey (keyOf generation) =
            o.record? GroupKey (keyOf generation)) := by
  have inv := ring.orderly
  obtain ⟨keys, lists⟩ := inv.lists
  refine ⟨keys, keys.getLast?, lists.records, lists.mem_iff, lists.current.1, lists.current.2,
    fun room now entropy => ?_⟩
  obtain ⟨done, k, e, ran, ended, next, text, free, state⟩ := inv.rekey_eq lists room now entropy
  have inv' := inv.edit setsKey_rekeyPlan ran
  obtain ⟨added, others⟩ := inv.record?_rekey inv' text free state
  obtain ⟨keys', lists'⟩ := inv'.lists
  have above : ∀ k' ∈ keys, k'.generation < k.generation := by
    rw [next]
    exact lt_nextGeneration lists.ordered room
  -- nothing that is listed afterwards is above the new key, so it is the newest
  have newest := lists.isNewest lists' above added others
  refine ⟨done, k, ran, ended, ?_, ?_, others⟩
  · rw [next]
    exact toNat_nextGeneration room
  · rw [lists'.current.1, newest.unique lists'.current.2]

/-- Keys of which one was stored. -/
def storing (origin : UInt64) (k : GroupKey) : Object :=
  { Object.blank .groupKeys .account origin with
    state := State.empty.write Collection.keys (keyOf k.generation)
      ⟨5, origin, some (Record.encode k)⟩
    seqno := 1
    dirty := true
    needsDump := true }

/-- A key of generation nine, with the key of generation ten of another replica. -/
def merging : Object :=
  (storing 1 ⟨9, "a"⟩).absorb "m" (storing 2 ⟨10, "b"⟩).state

/-- It is what an edit here, an edit there and a merge lead to. -/
theorem ring_merging : Ring merging := by
  have ours : Ring (storing 1 ⟨9, "a"⟩) :=
    .edit (.start .account 1) (setsKey_setRecord ⟨9, "a"⟩) 5 (.constant 1) rfl
  have theirs : Ring (storing 2 ⟨10, "b"⟩) :=
    .edit (.start .account 2) (setsKey_setRecord ⟨10, "b"⟩) 5 (.constant 1) rfl
  have short : ¬ maxSize < (storing 2 ⟨10, "b"⟩).pushFrame.length := by decide +kernel
  have fine : (storing 2 ⟨10, "b"⟩).state.check .groupKeys = .ok () := by decide +kernel
  have read := Object.readUpdate_push (storing 2 ⟨10, "b"⟩) (storing 1 ⟨9, "a"⟩) rfl
  rw [if_neg short, theirs.orderly.variant, fine] at read
  have new : (storing 1 ⟨9, "a"⟩).hasMerged "m" = false := rfl
  exact ours.merge theirs (Object.merge_of_read rfl new read)

/-- Both keys are found in it, and no other is. -/
theorem record?_merging (k : GroupKey) :
    merging.record? GroupKey (keyOf k.generation) = .ok (some k) ↔
      k = ⟨10, "b"⟩ ∨ k = ⟨9, "a"⟩ := by
  have shown : merging.state.get? Collection.keys (keyOf k.generation) =
      if k.generation = 10 then some (Record.encode (⟨10, "b"⟩ : GroupKey))
      else if k.generation = 9 then some (Record.encode (⟨9, "a"⟩ : GroupKey)) else none := by
    -- the two keys have places of their own, so the merge keeps both
    simp only [merging, Object.absorb, State.get?, State.find?_join, State.admits, storing,
      State.find?_write, State.find?_empty, true_and, keyOf_injective.eq_iff]
    by_cases ten : k.generation = 10
    · simp [ten]
    · by_cases nine : k.generation = 9 <;> simp [ten, nine]
  rw [Object.record?_of_home rfl]
  refine (State.record?_eq_some_iff isSound_shape
    (files_of_inPlace ring_merging.orderly.inPlace)).trans ?_
  change merging.state.get? Collection.keys (keyOf k.generation) = _ ↔ _
  rw [shown]
  constructor
  · intro found
    split at found
    · exact .inl (Record.encode_injective isSound_shape (Option.some.inj found)).symm
    · split at found
      · exact .inr (Record.encode_injective isSound_shape (Option.some.inj found)).symm
      · cases found
  · rintro (rfl | rfl) <;> rfl

/-- The key of generation ten is above that of generation nine, and eleven comes next. -/
theorem rotation_climbs_past_nine :
    ∃ done k, Ring merging ∧ current merging = .ok (some ⟨10, "b"⟩) ∧
      merging.edit 5 (.constant 1) rekey = .ok done ∧ done.result = .ok k ∧
      k.generation.toNat = 11 ∧ current done.object = .ok (some k) ∧
      done.object.record? GroupKey (keyOf 9) = .ok (some ⟨9, "a"⟩) := by
  obtain ⟨keys, newest, -, mem_iff, now, greatest, climbs⟩ := rotation_climbs ring_merging
  have listed (k : GroupKey) : k ∈ keys ↔ k = ⟨10, "b"⟩ ∨ k = ⟨9, "a"⟩ :=
    (mem_iff k).trans (record?_merging k)
  -- ten is the newest although a nine is a greater digit than a one
  have ten : IsNewest keys (some ⟨10, "b"⟩) := by
    refine ⟨(listed _).mpr (.inl rfl), fun k mem differs => ?_⟩
    obtain rfl | rfl := (listed k).mp mem
    · exact absurd rfl differs
    · decide
  obtain rfl := greatest.unique ten
  obtain ⟨done, k, ran, ended, next, after, others⟩ :=
    climbs (fun k mem => by obtain rfl | rfl := (listed k).mp mem <;> decide) 5
      (.constant 1)
  have other : 9 ≠ k.generation := by
    rintro same
    rw [← same] at next
    exact absurd next (by decide)
  refine ⟨done, k, ring_merging, now, ran, ended, next, after, ?_⟩
  rw [others 9 other]
  exact (record?_merging ⟨9, "a"⟩).mpr (.inr rfl)

end GroupKey

end ConfigReplica.Config
