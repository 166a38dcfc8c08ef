import ConfigReplica.Proofs.Ledger.Delivery

/-!
# Pruning keeps the newest

A pruned set holds the newest of what was recorded: the hashes that are recent, and of these as many
as the ledger may hold, the latest first. `Ledger.pruning_keeps_newest` says so by rank, that is by
the number of recent hashes that are later (`Ledger.rank`). A set that is pruned already is recent
and small enough, so pruning it again finds nothing to drop (`Ledger.prune_eq_self`).

A retention counts as the greatest time at most. Without that proviso the statement is false: no time
is older than a retention that is longer than all of time, but the least time is dropped even then
(`Ledger.least_time_dropped`).

When the hashes of a destination are replaced, each that was recorded before is given its time, and
all others the present one (`Ledger.timed`). What is recorded then is this set, pruned.
-/

namespace ConfigReplica.Ledger

variable {ledger : Ledger} {now : Int64} {seen : Received} {s : Store} {destination : String}

/-! ### Which hashes are the newest -/

/-- How many recent hashes are later than this one. -/
def rank (ledger : Ledger) (now : Int64) (seen : Received) (e : String × Int64) : Nat :=
  seen.toList.countP fun other => ledger.IsRecent now other.2 ∧ Later other e

/-- Counting among the recent hashes is counting the recent ones. -/
theorem countP_recent (e : String × Int64) :
    (ledger.recent now seen).toList.countP (fun other => Later other e) =
      ledger.rank now seen e := by
  unfold recent rank
  rw [Std.ExtTreeMap.toList_filter, List.countP_filter]
  refine List.countP_congr fun other _ => ?_
  simp only [Bool.and_eq_true, decide_eq_true_eq]
  rw [cutoff_le_iff_isRecent, and_comm]

/-- A hash is kept, with its time, if it is recent and few recent ones are later. -/
theorem getElem?_prune_iff {hash : String} {time : Int64} :
    (ledger.prune now seen)[hash]? = some time ↔
      seen[hash]? = some time ∧ ledger.IsRecent now time ∧
        ledger.rank now seen (hash, time) < ledger.most := by
  rw [kept_iff, getElem?_recent, countP_recent, cutoff_le_iff_isRecent, and_assoc]

/-- Where all is recent and no more than may be held, nothing is dropped. -/
theorem prune_eq_self (fresh : ∀ (hash : String) (time : Int64), seen[hash]? = some time →
    cutoff now ledger.retention ≤ time) (few : seen.size ≤ ledger.most) :
    ledger.prune now seen = seen := by
  refine Std.ExtTreeMap.ext_getElem? fun hash => Option.ext fun time => ?_
  refine ⟨fun kept => (of_mem_prune kept).1, fun there => ?_⟩
  have mem : (hash, time) ∈ byAge (ledger.recent now seen) :=
    mem_byAge.mpr (getElem?_recent.mpr ⟨there, fresh hash time there⟩)
  -- the order of the recent hashes is not longer than what is taken of it
  have short : (byAge (ledger.recent now seen)).length ≤ ledger.most := by
    calc (byAge (ledger.recent now seen)).length
        = (ledger.recent now seen).toList.length := List.length_mergeSort _
      _ = (ledger.recent now seen).size := Std.ExtTreeMap.length_toList
      _ ≤ seen.size := Std.ExtTreeMap.size_filter_le_size
      _ ≤ ledger.most := few
  apply getElem?_prune.mpr
  rw [List.take_of_length_le short]
  exact mem

/-- **Pruning again changes nothing.** -/
theorem prune_prune (ledger : Ledger) (now : Int64) (seen : Received) :
    ledger.prune now (ledger.prune now seen) = ledger.prune now seen :=
  prune_eq_self (fun _ _ kept => (of_mem_prune kept).2) (size_prune_le ledger now seen)

/-! ### Replacing what is recorded -/

/-- The hashes that are given, each with the time that was recorded with it before or, if it is new,
with the present time. -/
def timed (before : Received) (now : Int64) (hashes : List String) : Received :=
  Std.ExtTreeMap.ofList (hashes.map fun hash => (hash, before.getD hash now))

/-- Putting hashes with times that depend on nothing else. -/
theorem getElem?_insertMany (time : String → Int64) (hashes : List String) (held : Received)
    (hash : String) :
    (held.insertMany (hashes.map fun hash => (hash, time hash)))[hash]? =
      if hash ∈ hashes then some (time hash) else held[hash]? := by
  induction hashes generalizing held with
  | nil => simp
  | cons first hashes ih =>
    -- the hash is one of the later ones, it is the first, or it was there before
    rw [List.map_cons, Std.ExtTreeMap.insertMany_cons, ih, Std.ExtTreeMap.getElem?_insert]
    by_cases later : hash ∈ hashes
    · rw [if_pos later, if_pos (List.mem_cons_of_mem first later)]
    · rw [if_neg later]
      by_cases same : hash = first
      · subst same
        rw [if_pos Std.ReflCmp.compare_self, if_pos List.mem_cons_self]
      · rw [if_neg fun eq => same (Std.compare_eq_iff_eq.mp eq).symm,
          if_neg fun mem => (List.mem_cons.mp mem).elim same later]

/-- Which times the new hashes are given. -/
theorem getElem?_timed (before : Received) (now : Int64) (hashes : List String) (hash : String) :
    (timed before now hashes)[hash]? =
      if hash ∈ hashes then some (before[hash]?.getD now) else none := by
  unfold timed
  rw [Std.ExtTreeMap.ofList_eq_insertMany_empty, getElem?_insertMany,
    Std.ExtTreeMap.getD_eq_getD_getElem?]
  simp

/-- What is recorded cannot be read, and the call ends there. -/
theorem stored_of_illegible (illegible : ¬ Legible s destination) :
    ∃ error, stored destination s = .error error (s.noted (.read (cell destination))) := by
  rcases StoreM.load_cases codec .receivedHashes destination s with ⟨seen, ran, held⟩ | failed
  · refine absurd (fun bytes row => ?_) illegible
    -- the row was given, so it was decoded
    rw [show s.row? ⟨.receivedHashes, destination⟩ = some bytes from row] at held
    obtain ⟨x, decoded, -⟩ := held
    exact ⟨x, decoded⟩
  · exact failed

/-- **Replacing what is recorded**, over a store that works. -/
theorem setReceived_eq (works : s.Works) (legible : Legible s destination) (hashes : List String) :
    ledger.setReceived now destination hashes s =
      .ok () (((s.noted (.read (cell destination))).noted (.write (cell destination))).insert
        (cell destination)
        (codec.write (ledger.prune now (timed (recorded s destination) now hashes)))) := by
  obtain ⟨seen, read, same⟩ := stored_eq works legible
  let s₁ := s.noted (.read (cell destination))
  have ran : ledger.setReceived now destination hashes s = _ := bind_of_ok read
  rw [ran, same]
  have put := StoreM.put_eq .receivedHashes destination s₁
    (codec.write (ledger.prune now (timed (recorded s destination) now hashes)))
  rw [show s₁.fault s₁.past _ = none from works _ _] at put
  exact put

/-- Reading what is recorded gives the hashes of the row, in order. -/
theorem received_of_row {kept : Received} (works : s.Works)
    (row : s.row? (cell destination) = some (codec.write kept))
    (short : (codec.write kept).length < UInt64.size) :
    received destination s = .ok (some kept.keys) (s.noted (.read (cell destination))) := by
  have decoded := Codec.decode_write faithful_codec kept short
  have loaded := StoreM.load_of_row codec .receivedHashes destination s (works _ _) row decoded
  exact bind_of_ok loaded

/-! ### The theorem -/

/-- **Pruning keeps exactly the newest hashes.**

* What is kept was there before with the same time, is recent, and is outdone by fewer recent hashes
  than the ledger may hold; and all that is so is kept.
* Pruning again changes nothing.
* Over a store that works the hashes of a destination can be replaced, if those that are recorded
  can be read. What is recorded and given from then on are the new hashes, pruned, where each that
  was recorded before kept its time. The row has to have a length of 64 bits to be read again. If
  what is recorded cannot be read the call fails, and no row is changed. -/
theorem pruning_keeps_newest (ledger : Ledger) (now : Int64) :
    (∀ (seen : Received) (hash : String) (time : Int64),
      (ledger.prune now seen)[hash]? = some time ↔
        seen[hash]? = some time ∧ ledger.IsRecent now time ∧
          ledger.rank now seen (hash, time) < ledger.most) ∧
    (∀ seen : Received, ledger.prune now (ledger.prune now seen) = ledger.prune now seen) ∧
    ∀ (s : Store) (destination : String) (hashes : List String), s.Works →
      (Legible s destination → ∃ given s',
        (∀ hash : String, given[hash]? =
          if hash ∈ hashes then some ((recorded s destination)[hash]?.getD now) else none) ∧
        ledger.setReceived now destination hashes s = .ok () s' ∧
        (∀ other, other ≠ cell destination → s'.row? other = s.row? other) ∧
        ((codec.write (ledger.prune now given)).length < UInt64.size →
          recorded s' destination = ledger.prune now given ∧
          ∃ s'', received destination s' = .ok (some (ledger.prune now given).keys) s'')) ∧
      (¬ Legible s destination → ∃ error s',
        ledger.setReceived now destination hashes s = .error error s' ∧ s'.row? = s.row?) := by
  refine ⟨fun _ _ _ => getElem?_prune_iff, prune_prune ledger now, ?_⟩
  intro s destination hashes works
  constructor
  · -- the times are taken over, and what is written then is the pruned set
    intro legible
    let given := timed (recorded s destination) now hashes
    let s' := ((s.noted (.read (cell destination))).noted (.write (cell destination))).insert
      (cell destination) (codec.write (ledger.prune now given))
    have row : s'.row? (cell destination) = some (codec.write (ledger.prune now given)) := by
      rw [Store.row?_insert, if_pos rfl]
    refine ⟨given, s', getElem?_timed _ _ _, setReceived_eq works legible hashes, ?_, ?_⟩
    · intro other apart
      rw [Store.row?_insert, if_neg apart]
      rfl
    · intro short
      exact ⟨recorded_of_row row short, _, received_of_row works row short⟩
  · -- reading comes first, and it fails before anything is written
    intro illegible
    obtain ⟨error, failed⟩ := stored_of_illegible illegible
    exact ⟨error, _, bind_of_error failed, rfl⟩

/-- Two hashes are new, and one was recorded too long ago. A ledger that may hold one keeps the
greater of the two. -/
theorem pruning_keeps_newest_tie :
    let ledger : Ledger := { retention := 10, most := 1 }
    let s : Store := stateAfter (ledger.setReceived 5 "05aa" ["o"]) {}
    s.Works ∧ Legible s "05aa" ∧ ∃ s' s'',
      ledger.setReceived 20 "05aa" ["a", "b", "o"] s = .ok () s' ∧
      received "05aa" s' = .ok (some ["b"]) s'' := by
  intro ledger s
  -- one hash was recorded at time 5, and the other two are new
  have held : (recorded s "05aa").toList = [("o", 5)] := by decide +kernel
  have known : (recorded s "05aa")["o"]? = some 5 :=
    Std.ExtTreeMap.mem_toList_iff_getElem?_eq_some.mp (held ▸ List.mem_singleton.mpr rfl)
  have works : s.Works := fun _ _ => rfl
  have legible : Legible s "05aa" :=
    legible_of_mem (Std.ExtTreeMap.mem_iff_isSome_getElem?.mpr (by rw [known]; rfl))
  obtain ⟨given, s', times, ran, -, read⟩ :=
    ((pruning_keeps_newest ledger 20).2.2 s "05aa" ["a", "b", "o"] works).1 legible
  -- the set that is given is made up of the times that are given
  have same : given = timed (recorded s "05aa") 20 ["a", "b", "o"] :=
    Std.ExtTreeMap.ext_getElem? fun hash => (times hash).trans (getElem?_timed _ _ _ _).symm
  have kept : (ledger.prune 20 (timed (recorded s "05aa") 20 ["a", "b", "o"])).keys = ["b"] := by
    rw [prune, byAge_eq_insertionSort]
    decide +kernel
  have length : (codec.write
      (ledger.prune 20 (timed (recorded s "05aa") 20 ["a", "b", "o"]))).length = 4 := by
    rw [prune, byAge_eq_insertionSort]
    decide +kernel
  rw [same, kept, length] at read
  obtain ⟨-, s'', given⟩ := read (by decide)
  exact ⟨works, legible, s', s'', ran, given⟩

/-- **A recent hash that is dropped.** The least time there is lies not before a retention that is
longer than all of time. The ledger may hold thousands of hashes and drops the only one. -/
theorem least_time_dropped :
    let ledger : Ledger := { retention := 2 ^ 64 - 1 }
    let seen : Received := Std.ExtTreeMap.ofList [("a", Int64.minValue)]
    seen["a"]? = some Int64.minValue ∧
      (0 : Int64).toInt - (ledger.retention : Int) ≤ Int64.minValue.toInt ∧
      (seen.toList.countP fun other =>
        (0 : Int64).toInt - (ledger.retention : Int) ≤ other.2.toInt ∧
          Later other ("a", Int64.minValue)) < ledger.most ∧
      (ledger.prune 0 seen)["a"]? = none := by
  intro ledger seen
  have there : seen["a"]? = some Int64.minValue := by
    rw [show seen = Std.ExtTreeMap.insert ∅ "a" Int64.minValue from
      Std.ExtTreeMap.ofList_singleton]
    exact Std.ExtTreeMap.getElem?_insert_self
  refine ⟨there, by decide, ?_, ?_⟩
  · calc seen.toList.countP _ ≤ seen.toList.length := List.countP_le_length
      _ = 1 := by decide +kernel
      _ < ledger.most := by decide
  · refine Option.eq_none_iff_forall_ne_some.mpr fun time kept => ?_
    obtain ⟨held, late⟩ := of_mem_prune kept
    obtain rfl := Option.some.inj (there.symm.trans held)
    -- the retention counts as the greatest time only, and the least time is one beyond that
    exact absurd late (by decide)

end ConfigReplica.Ledger
