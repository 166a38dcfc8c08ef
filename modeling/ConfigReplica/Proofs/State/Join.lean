import ConfigReplica.Config.State
import Mathlib.Data.Set.Basic
import Mathlib.Order.Bounds.Basic

/-!
# What a state is the sum of

A state grows by single writes (`State.put`) and by joining other states
(`State.join`). Both keep, key by key, the greatest entry ever offered, so a
state is determined by the *set* of writes that went into it, whatever their
order and however often each was repeated.

`State.Sums s K` says that `s` is the sum of the writes `K`. It has two halves:
what is found in `s` was written (`Sums.known`), and what was written is found,
or something greater is (`Sums.covered`). From the two it follows that `s` holds
the greatest entry of every key (`Sums.find?_eq_some_iff`).

A collection without entries cannot be seen through `State.find?`, and would
still make two states differ. `State.Dense` excludes such collections; it holds
of every state that grew from the empty one. Two dense states that are sums of
the same writes are equal (`Sums.unique`).
-/

namespace ConfigReplica.Config

/-- A write: a collection, a key, and the entry that was written there. -/
abbrev Write := String × String × Entry

/-! ### The order of entries -/

namespace Entry

/-- Entries in the order by which they replace each other: by time, then
replica, then value, a removal before every value. -/
instance : LinearOrder Entry where
  le a b := (compare a b).isLE
  lt a b := compare a b = .lt
  le_refl _ := Ordering.isLE_of_eq_eq Std.ReflCmp.compare_self
  le_trans _ _ _ := Std.TransCmp.isLE_trans
  le_antisymm _ _ h₁ h₂ :=
    Std.LawfulEqOrd.eq_of_compare (Std.OrientedCmp.isLE_antisymm h₁ h₂)
  le_total a b := by
    have swap : compare b a = (compare a b).swap := Std.OrientedCmp.eq_swap
    rw [swap]
    cases compare a b <;> simp
  lt_iff_le_not_ge a b := by
    have swap : compare b a = (compare a b).swap := Std.OrientedCmp.eq_swap
    rw [swap]
    cases compare a b <;> simp
  toDecidableLE _ _ := inferInstance
  toDecidableEq := inferInstance
  compare_eq_compareOfLessAndEq a b := by
    unfold compareOfLessAndEq
    cases h : compare a b with
    | lt => exact (if_pos h).symm
    | eq =>
      obtain rfl := Std.LawfulEqOrd.eq_of_compare h
      simp
    | gt =>
      have hne : a ≠ b := by
        rintro rfl
        have self : compare a a = .eq := Std.ReflCmp.compare_self
        rw [self] at h
        exact absurd h (by decide)
      have hlt : ¬ compare a b = .lt := by rw [h]; decide
      exact ((if_neg hlt).trans (if_neg hne)).symm

/-- An entry wins over all smaller ones. -/
theorem winsOver_iff {a b : Entry} : a.winsOver b = true ↔ b < a := by
  have swap : compare b a = (compare a b).swap := Std.OrientedCmp.eq_swap
  change (compare a b == .gt) = true ↔ compare b a = .lt
  rw [swap]
  cases compare a b <;> simp

end Entry

namespace State

/-! ### Keys that hold at least an entry -/

/-- The state holds the entry of a key, or a greater one. -/
def Covers (s : State) (collection key : String) (e : Entry) : Prop :=
  ∃ held, s.find? collection key = some held ∧ e ≤ held

variable {s t : State} {collection key collection' key' : String} {e e' : Entry}

/-- What is found is covered. -/
theorem covers_of_find? (h : s.find? collection key = some e) : s.Covers collection key e :=
  ⟨e, h, le_refl e⟩

/-- What covers an entry covers all smaller ones. -/
theorem Covers.mono (h : s.Covers collection key e) (hle : e' ≤ e) :
    s.Covers collection key e' := by
  obtain ⟨held, found, le⟩ := h
  exact ⟨held, found, le_trans hle le⟩

/-- An entry is admitted by the keys that do not cover it. -/
theorem admits_iff : s.admits collection key e = true ↔ ¬ s.Covers collection key e := by
  unfold admits Covers
  cases s.find? collection key with
  | none => simp
  | some old => simp [Entry.winsOver_iff]

/-- What is found after a write is the entry that was written, or was found before. -/
theorem find?_put_eq_some (h : (s.put collection key e).find? collection' key' = some e') :
    (collection' = collection ∧ key' = key ∧ e' = e) ∨ s.find? collection' key' = some e' := by
  rw [find?_put] at h
  split at h
  · next written => exact .inl ⟨written.1, written.2.1, (Option.some.inj h).symm⟩
  · exact .inr h

theorem covers_put : (s.put collection key e).Covers collection key e := by
  unfold Covers
  rw [find?_put]
  by_cases admitted : s.admits collection key e = true
  · exact ⟨e, by simp [admitted], le_refl e⟩
  · -- what is not admitted was covered already, and the state stays as it is
    have covered : s.Covers collection key e := by rwa [admits_iff, not_not] at admitted
    unfold Covers at covered
    simpa [admitted] using covered

/-- What was covered stays covered. -/
theorem Covers.put (h : s.Covers collection' key' e') :
    (s.put collection key e).Covers collection' key' e' := by
  obtain ⟨held, found, le⟩ := h
  by_cases written : collection' = collection ∧ key' = key ∧ s.admits collection key e = true
  · obtain ⟨rfl, rfl, admitted⟩ := written
    -- the entry that is replaced lies between the two
    have below : held ≤ e := by
      by_contra above
      exact admits_iff.mp admitted ⟨held, found, le_of_not_ge above⟩
    exact covers_put.mono (le_trans le below)
  · exact ⟨held, by rw [find?_put, if_neg written, found], le⟩

/-! ### Sums of writes -/

/-- **Sum of writes.** The state holds entries that were written and nothing
else, and covers every entry that was written. -/
structure Sums (s : State) (K : Set Write) : Prop where
  /-- What is found was written. -/
  known : ∀ {collection key e}, s.find? collection key = some e → (collection, key, e) ∈ K
  /-- What was written is covered. -/
  covered : ∀ {collection key e}, (collection, key, e) ∈ K → s.Covers collection key e

/-- The writes of a list are those of its members. -/
def writes (ws : List Write) : Set Write :=
  {w | w ∈ ws}

variable {K L : Set Write}

/-- The empty state is the sum of no writes. -/
theorem sums_empty : empty.Sums ∅ where
  known h := by rw [find?_empty] at h; exact absurd h (by simp)
  covered h := absurd h (Set.notMem_empty _)

/-- A write adds itself. -/
theorem Sums.put (h : s.Sums K) (collection key : String) (e : Entry) :
    (s.put collection key e).Sums (insert (collection, key, e) K) where
  known found := by
    rcases find?_put_eq_some found with ⟨rfl, rfl, rfl⟩ | found
    · exact Set.mem_insert _ _
    · exact Set.mem_insert_of_mem _ (h.known found)
  covered mem := by
    rcases Set.mem_insert_iff.mp mem with new | mem
    · obtain ⟨rfl, rfl, rfl⟩ := new
      exact covers_put
    · exact (h.covered mem).put

/-- A sum of writes is also the sum of more of them, as long as it covers these. -/
theorem Sums.extend (h : s.Sums K) (hsub : K ⊆ L)
    (hcov : ∀ collection key e, (collection, key, e) ∈ L → s.Covers collection key e) :
    s.Sums L where
  known found := hsub (h.known found)
  covered mem := hcov _ _ _ mem

/-- Writing a list of entries, one after the other. -/
def putAll (s : State) (ws : List Write) : State :=
  ws.foldl (fun s (collection, key, e) => s.put collection key e) s

/-- Writing one list after another is writing both. -/
theorem putAll_append (s : State) (ws ws' : List Write) :
    s.putAll (ws ++ ws') = (s.putAll ws).putAll ws' :=
  List.foldl_append

theorem join_eq_putAll (s t : State) : s.join t = s.putAll t.entries := rfl

theorem Covers.putAll (h : s.Covers collection key e) (ws : List Write) :
    (s.putAll ws).Covers collection key e := by
  induction ws generalizing s with
  | nil => exact h
  | cons w ws ih => exact ih h.put

/-- A list of writes adds its members. -/
theorem Sums.putAll (h : s.Sums K) (ws : List Write) : (s.putAll ws).Sums (K ∪ writes ws) := by
  induction ws generalizing s K with
  | nil => simpa [writes, State.putAll] using h
  | cons w ws ih =>
    have tail := ih (h.put w.1 w.2.1 w.2.2)
    have same : insert (w.1, w.2.1, w.2.2) K ∪ writes ws = K ∪ writes (w :: ws) := by
      ext x
      simp only [writes, Set.mem_union, Set.mem_insert_iff, Set.mem_ofPred_eq, List.mem_cons]
      tauto
    rw [same] at tail
    exact tail

/-- The entries of a state are what is found in it. -/
theorem mem_entries_iff : (collection, key, e) ∈ s.entries ↔ s.find? collection key = some e := by
  simp only [entries, List.mem_flatMap, List.mem_map, Prod.mk.injEq, Prod.exists,
    Std.ExtTreeMap.mem_toList_iff_getElem?_eq_some]
  unfold find? State.collection
  -- an entry is found through its collection, and is listed through it too
  constructor
  · rintro ⟨name, keys, found, key', e', inner, rfl, rfl, rfl⟩
    rw [Std.ExtTreeMap.getD_eq_getD_getElem?, found]
    exact inner
  · intro found
    rw [Std.ExtTreeMap.getD_eq_getD_getElem?] at found
    cases outer : s.collections[collection]? with
    | none => rw [outer] at found; simp at found
    | some keys =>
      rw [outer] at found
      exact ⟨collection, keys, outer, key, e, found, rfl, rfl, rfl⟩

/-- A state is the sum of its entries. -/
theorem sums_entries (s : State) : s.Sums (writes s.entries) where
  known found := mem_entries_iff.mpr found
  covered mem := covers_of_find? (mem_entries_iff.mp mem)

/-- After writing a list, each of its entries is covered. -/
theorem covers_putAll {ws : List Write} (mem : (collection, key, e) ∈ ws) :
    (s.putAll ws).Covers collection key e :=
  (s.sums_entries.putAll ws).covered (Or.inr mem)

/-- **Joining adds up.** The join of two states is the sum of what either is the sum of. -/
theorem Sums.join (h : s.Sums K) (h' : t.Sums L) : (s.join t).Sums (K ∪ L) := by
  -- putting in the entries of `t` adds these, and `t` holds only entries of `L`
  have joined := h.putAll t.entries
  rw [← join_eq_putAll] at joined
  refine joined.extend ?_ ?_
  · refine Set.union_subset_union_right K fun w mem => ?_
    exact h'.known (mem_entries_iff.mp mem)
  · intro collection key e mem
    rcases mem with mem | mem
    · exact joined.covered (Or.inl mem)
    · -- the entry may have been replaced within `t`, by one that is put in
      obtain ⟨held, found, le⟩ := h'.covered mem
      exact (joined.covered (Or.inr (mem_entries_iff.mpr found))).mono le

/-- The greatest entry of a key is the one that is found. -/
theorem Sums.find?_eq_some_iff (h : s.Sums K) :
    s.find? collection key = some e ↔ IsGreatest {e | (collection, key, e) ∈ K} e := by
  constructor
  · intro found
    refine ⟨h.known found, fun e' mem => ?_⟩
    obtain ⟨held, found', le⟩ := h.covered mem
    obtain rfl : e = held := Option.some.inj (found.symm.trans found')
    exact le
  · rintro ⟨mem, greatest⟩
    obtain ⟨held, found, le⟩ := h.covered mem
    obtain rfl : held = e := le_antisymm (greatest (h.known found)) le
    exact found

/-- Nothing is found where nothing was written. -/
theorem Sums.find?_eq_none_iff (h : s.Sums K) :
    s.find? collection key = none ↔ ∀ e, (collection, key, e) ∉ K := by
  constructor
  · intro missing e mem
    obtain ⟨held, found, -⟩ := h.covered mem
    rw [missing] at found
    exact absurd found (by simp)
  · intro nothing
    cases found : s.find? collection key with
    | none => rfl
    | some e => exact absurd (h.known found) (nothing e)

/-! ### What holds of every entry -/

/-- Something holds of every entry of the state. -/
def Every (s : State) (P : Write → Prop) : Prop :=
  ∀ collection key e, s.find? collection key = some e → P (collection, key, e)

variable {P : Write → Prop}

/-- Nothing is found in the empty state. -/
theorem every_empty : empty.Every P := by
  intro collection key e found
  rw [find?_empty] at found
  exact absurd found (by simp)

/-- What is listed is what is found. -/
theorem every_iff_entries : s.Every P ↔ ∀ w ∈ s.entries, P w := by
  constructor
  · rintro h ⟨collection, key, e⟩ mem
    exact h collection key e (mem_entries_iff.mp mem)
  · intro h collection key e found
    exact h _ (mem_entries_iff.mpr found)

/-- What holds of the entries and of some writes holds after these are written. -/
theorem Every.putAll (h : s.Every P) {ws : List Write} (hws : ∀ w ∈ ws, P w) :
    (s.putAll ws).Every P := by
  induction ws generalizing s with
  | nil => exact h
  | cons w ws ih =>
    refine ih ?_ fun w' mem => hws w' (List.mem_cons_of_mem _ mem)
    intro collection key e found
    rcases find?_put_eq_some found with ⟨rfl, rfl, rfl⟩ | found
    · exact hws w (List.mem_cons_self ..)
    · exact h collection key e found

/-! ### States without empty collections -/

/-- No collection is without entries. -/
def Dense (s : State) : Prop :=
  ∀ (name : String) (keys : Dict Entry), s.collections[name]? = some keys → keys ≠ ∅

/-- The empty state has no collections. -/
theorem dense_empty : empty.Dense := by
  intro name keys found
  simp [empty] at found

theorem Dense.put (h : s.Dense) (collection key : String) (e : Entry) :
    (s.put collection key e).Dense := by
  unfold State.put
  split
  · intro name keys found
    simp only [write, Std.ExtTreeMap.getElem?_insert] at found
    split at found
    · -- the collection that was written to has the key that was written
      obtain rfl := Option.some.inj found
      intro none
      have mem := Std.ExtTreeMap.getElem?_insert_self (t := s.collection collection) (k := key)
        (v := e)
      rw [none] at mem
      simp at mem
    · exact h name keys found
  · exact h

/-- Writing a list leaves no empty collection. -/
theorem Dense.putAll (h : s.Dense) (ws : List Write) : (s.putAll ws).Dense := by
  induction ws generalizing s with
  | nil => exact h
  | cons w ws ih => exact ih (h.put _ _ _)

/-- Dense states in which the same is found are equal. -/
theorem Dense.ext (hs : s.Dense) (ht : t.Dense)
    (same : ∀ collection key, s.find? collection key = t.find? collection key) : s = t := by
  -- a collection of one state has an entry, which is found in the other one too
  have half {s t : State} (hs : s.Dense)
      (same : ∀ collection key, s.find? collection key = t.find? collection key)
      -- it would be empty in the other state, where the same is found
      {name : String} {keys : Dict Entry} (found : s.collections[name]? = some keys) :
      t.collections[name]? = some keys := by
    have inner : s.collection name = keys := by
      simp [State.collection, Std.ExtTreeMap.getD_eq_getD_getElem?, found]
    cases outer : t.collections[name]? with
    | none =>
      have other : t.collection name = ∅ := by
        simp [State.collection, Std.ExtTreeMap.getD_eq_getD_getElem?, outer]
      refine absurd (Std.ExtTreeMap.ext_getElem? fun key => ?_) (hs name keys found)
      have := same name key
      simpa only [find?, inner, other] using this
    | some keys' =>
      have other : t.collection name = keys' := by
        simp [State.collection, Std.ExtTreeMap.getD_eq_getD_getElem?, outer]
      congr 1
      refine Std.ExtTreeMap.ext_getElem? fun key => ?_
      have := same name key
      simpa only [find?, inner, other] using this.symm
  -- hence both have the same collections, and a state is nothing else
  have collections : s.collections = t.collections := by
    refine Std.ExtTreeMap.ext_getElem? fun name => ?_
    cases found : s.collections[name]? with
    | some keys => exact (half hs same found).symm
    | none =>
      cases other : t.collections[name]? with
      | none => rfl
      | some keys =>
        rw [half ht (fun c k => (same c k).symm) other] at found
        exact absurd found (by simp)
  cases s
  cases t
  simp_all

/-- **A sum is determined by its writes**, not by their order or repetition. -/
theorem Sums.unique (hs : s.Sums K) (ht : t.Sums K) (ds : s.Dense) (dt : t.Dense) : s = t := by
  refine ds.ext dt fun collection key => ?_
  cases found : s.find? collection key with
  | some e => exact (ht.find?_eq_some_iff.mpr (hs.find?_eq_some_iff.mp found)).symm
  | none => exact (ht.find?_eq_none_iff.mpr (hs.find?_eq_none_iff.mp found)).symm

/-! ### What joining reveals -/

/-- What is found in a join: the other state's entry where it is admitted. -/
theorem find?_join (s t : State) (collection key : String) :
    (s.join t).find? collection key =
      match t.find? collection key with
      | some e => if s.admits collection key e then some e else s.find? collection key
      | none => s.find? collection key := by
  have sums := s.sums_entries.join t.sums_entries
  have mem (e : Entry) : (collection, key, e) ∈ writes s.entries ∪ writes t.entries ↔
      s.find? collection key = some e ∨ t.find? collection key = some e :=
    or_congr mem_entries_iff mem_entries_iff
  -- of the two entries that there may be, the greater one is found
  have found {e : Entry} (here : s.find? collection key = some e ∨ t.find? collection key = some e)
      (greatest : ∀ e', s.find? collection key = some e' ∨ t.find? collection key = some e' →
        e' ≤ e) : (s.join t).find? collection key = some e :=
    sums.find?_eq_some_iff.mpr ⟨(mem e).mpr here, fun e' other => greatest e' ((mem e').mp other)⟩
  unfold admits
  cases ours : s.find? collection key with
  | none =>
    cases theirs : t.find? collection key with
    | none =>
      refine sums.find?_eq_none_iff.mpr fun e written => ?_
      simpa [ours, theirs] using (mem e).mp written
    | some e => exact found (.inr theirs) (by simp [ours, theirs])
  | some old =>
    cases theirs : t.find? collection key with
    | none => exact found (.inl ours) (by simp [ours, theirs])
    | some e =>
      by_cases wins : e.winsOver old = true
      · have above : old < e := Entry.winsOver_iff.mp wins
        simp only [wins, if_true]
        refine found (.inr theirs) fun e' other => ?_
        rcases other with same | same
        · exact Option.some.inj (ours.symm.trans same) ▸ above.le
        · exact (Option.some.inj (theirs.symm.trans same)).ge
      · have below : e ≤ old := not_lt.mp fun above => wins (Entry.winsOver_iff.mpr above)
        simp only [wins]
        refine found (.inl ours) fun e' other => ?_
        rcases other with same | same
        · exact (Option.some.inj (ours.symm.trans same)).ge
        · exact Option.some.inj (theirs.symm.trans same) ▸ below

/-- **Joining reveals something** exactly if some visible value differs afterwards. -/
theorem joinReveals_iff (s t : State) :
    s.joinReveals t = true ↔
      ∃ collection key, (s.join t).get? collection key ≠ s.get? collection key := by
  -- what the joined state shows under a key, by the entry of the other one
  have joined (collection key : String) : (s.join t).get? collection key =
      match t.find? collection key with
      | some e => if s.admits collection key e then e.value else s.get? collection key
      | none => s.get? collection key := by
    unfold get?
    rw [find?_join]
    cases t.find? collection key with
    | none => rfl
    | some e => by_cases admitted : s.admits collection key e = true <;> simp [admitted]
  unfold joinReveals
  rw [List.any_eq_true]
  constructor
  · rintro ⟨⟨collection, key, e⟩, mem, revealed⟩
    obtain ⟨admitted, differs⟩ : s.admits collection key e = true ∧
        s.get? collection key ≠ e.value := by simpa [reveals] using revealed
    -- an entry that reveals something is the one that differs
    refine ⟨collection, key, ?_⟩
    rw [joined, mem_entries_iff.mp mem]
    simpa [admitted] using differs.symm
  · rintro ⟨collection, key, differs⟩
    rw [joined] at differs
    cases theirs : t.find? collection key with
    | none => simp [theirs] at differs
    | some e =>
      -- a value can only differ where an entry is admitted
      by_cases admitted : s.admits collection key e = true
      · refine ⟨(collection, key, e), mem_entries_iff.mpr theirs, ?_⟩
        simp only [theirs, admitted, if_true] at differs
        simp [reveals, admitted, Ne.symm differs]
      · simp [theirs, admitted] at differs

end State

end ConfigReplica.Config
