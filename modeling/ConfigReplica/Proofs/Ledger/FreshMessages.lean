import ConfigReplica.Proofs.Ledger.Delivery

/-!
# Fresh messages

A message is fresh if its hash is not recorded and nothing recorded was seen after it. One would
expect that a ledger that holds anything at all takes every fresh message, as nothing it holds is
newer. It does take those that are later than all it holds. Among messages of the same millisecond,
however, the ledger keeps those with the greater hashes, and a full ledger may have to choose among
these alone: then a message is dropped that was never seen before (`Ledger.fresh_message_dropped`).

What decides are the **rivals** of a message, the recorded hashes of its own millisecond that are
greater (`Ledger.rivals`). It is taken and recorded exactly if they are fewer than the ledger may
hold (`Ledger.fresh_message_taken_iff`).
-/

namespace ConfigReplica.Ledger

variable {ledger : Ledger} {s : Store} {d : Delivery} {seen : Received}

/-- How many hashes were seen at the very time of a message and are greater than its own. -/
def rivals (seen : Received) (d : Delivery) : Nat :=
  seen.toList.countP fun (hash, time) => time = d.time ∧ d.hash < hash

/-- Nothing was seen after the message. -/
def Latest (seen : Received) (d : Delivery) : Prop :=
  ∀ (hash : String) (time : Int64), seen[hash]? = some time → time ≤ d.time

/-- A message that is later than all that is recorded has no rivals. -/
theorem rivals_eq_zero (later : ∀ (hash : String) (time : Int64), seen[hash]? = some time →
    time < d.time) : rivals seen d = 0 := by
  refine List.countP_eq_zero.mpr ?_
  rintro ⟨hash, time⟩ mem rival
  rw [decide_eq_true_eq] at rival
  have less := later hash time (Std.ExtTreeMap.mem_toList_iff_getElem?_eq_some.mp mem)
  rw [rival.1] at less
  exact Int64.lt_irrefl less

/-- Once a fresh message is recorded, what is later than it are its rivals. -/
theorem countP_later_eq_rivals (latest : Latest seen d) :
    (ledger.recent d.time (seen.insert d.hash d.time)).toList.countP
      (fun e => Later e (d.hash, d.time)) = rivals seen d := by
  unfold rivals
  rw [List.countP_eq_length_filter, List.countP_eq_length_filter]
  -- both lists hold each of their hashes once, so it is enough that they hold the same ones
  have once {p : String × Int64 → Bool} (held : Received) : (held.toList.filter p).Nodup :=
    (nodup_toList held).filter _
  refine List.Perm.length_eq ((List.perm_ext_iff_of_nodup (once _) (once _)).mpr ?_)
  rintro ⟨hash, time⟩
  rw [List.mem_filter, List.mem_filter, Std.ExtTreeMap.mem_toList_iff_getElem?_eq_some,
    Std.ExtTreeMap.mem_toList_iff_getElem?_eq_some, getElem?_recent, decide_eq_true_eq,
    decide_eq_true_eq, Std.ExtTreeMap.getElem?_insert]
  by_cases own : d.hash = hash
  · -- a message is no rival of itself
    subst own
    simp only [Std.ReflCmp.compare_self, if_true, Option.some.injEq]
    constructor
    · rintro ⟨⟨rfl, -⟩, later⟩
      exact absurd later later.asymm
    · rintro ⟨-, -, less⟩
      exact absurd less (lt_irrefl _)
  · rw [if_neg fun same => own (Std.compare_eq_iff_eq.mp same)]
    constructor
    · rintro ⟨⟨held, -⟩, after | ⟨same, greater⟩⟩
      · -- nothing was seen after the message
        exact absurd (Int64.lt_of_lt_of_le after (latest hash time held)) Int64.lt_irrefl
      · exact ⟨held, same.symm, greater⟩
    · rintro ⟨held, rfl, greater⟩
      exact ⟨⟨held, cutoff_le _ _⟩, .inr ⟨rfl, greater⟩⟩

/-- A fresh message stays recorded if it has fewer rivals than the ledger may hold, and is dropped
otherwise. -/
theorem getElem?_withNew (latest : Latest seen d) :
    (ledger.withNew seen d)[d.hash]? =
      if rivals seen d < ledger.most then some d.time else none := by
  have inserted : (ledger.recent d.time (seen.insert d.hash d.time))[d.hash]? = some d.time :=
    getElem?_recent.mpr ⟨Std.ExtTreeMap.getElem?_insert_self, cutoff_le _ _⟩
  unfold withNew
  split
  · next few =>
    exact kept_iff.mpr ⟨inserted, (countP_later_eq_rivals latest).symm ▸ few⟩
  · next many =>
    refine Option.eq_none_iff_forall_ne_some.mpr fun time kept => many ?_
    -- it could only be kept with its own time
    obtain rfl : d.time = time := by
      have there := (of_mem_prune kept).1
      rw [Std.ExtTreeMap.getElem?_insert_self] at there
      exact Option.some.inj there
    exact (countP_later_eq_rivals latest) ▸ (kept_iff.mp kept).2

/-- **Which fresh messages are taken.** A ledger over a store that works always answers. It takes a
fresh message, and writes it down with its time, exactly if the message has fewer rivals than the
ledger may hold. One that is later than all that is recorded has none. -/
theorem fresh_message_taken_iff (works : s.Works) (legible : Legible s d.destination)
    (new : d.hash ∉ recorded s d.destination) (latest : Latest (recorded s d.destination) d) :
    ∃ taken s' kept, ledger.offer d s = .ok taken s' ∧
      s'.row? (cell d.destination) = some (codec.write kept) ∧
      ((codec.write kept).length < UInt64.size → recorded s' d.destination = kept) ∧
      kept[d.hash]? = (if taken then some d.time else none) ∧
      (taken = true ↔ rivals (recorded s d.destination) d < ledger.most) ∧
      ((∀ (hash : String) (time : Int64), (recorded s d.destination)[hash]? = some time →
        time < d.time) → (taken = true ↔ 1 ≤ ledger.most)) := by
  -- the message is not recorded yet, so the offer prunes with it and writes what is left
  rcases @offer_cases ledger s works d legible with ⟨known, -⟩ | ⟨-, ran⟩
  · exact absurd known new
  · let kept := ledger.withNew (recorded s d.destination) d
    have held : kept[d.hash]? = _ := getElem?_withNew latest
    have row : (written s d kept).row? (cell d.destination) = some (codec.write kept) :=
      (row?_written s d kept _).trans (if_pos rfl)
    -- the answer is whether the message is among the hashes that were kept
    have taken : kept.contains d.hash = true ↔
        rivals (recorded s d.destination) d < ledger.most := by
      rw [Std.ExtTreeMap.contains_eq_isSome_getElem?, held]
      split <;> simp_all
    refine ⟨_, _, kept, ran, row, recorded_of_row row, ?_, taken, fun later => ?_⟩
    · rw [held]
      exact if_congr taken.symm rfl rfl
    · -- a message that is later than all has no rivals
      rw [taken, rivals_eq_zero later]
      exact Nat.lt_iff_add_one_le

/-- A full ledger takes a message that is later than the one it holds. -/
theorem fresh_message_taken_iff_later :
    let ledger : Ledger := { most := 1 }
    let s := ledger.offered {} [⟨"05aa", "z", 5⟩]
    let d : Delivery := ⟨"05aa", "a", 6⟩
    Legible s d.destination ∧ d.hash ∉ recorded s d.destination ∧
      Latest (recorded s d.destination) d ∧ ledger.Takes s d := by
  intro ledger s d
  have held : (recorded s d.destination).toList = [("z", 5)] := by decide +kernel
  -- the ledger holds one hash only, which all hypotheses ask about
  have time_eq (hash : String) (time : Int64)
      (there : (recorded s d.destination)[hash]? = some time) : hash = "z" ∧ time = 5 := by
    have mem := Std.ExtTreeMap.mem_toList_iff_getElem?_eq_some.mpr there
    rw [held] at mem
    simpa using mem
  have known : "z" ∈ recorded s d.destination := by
    rw [Std.ExtTreeMap.mem_iff_isSome_getElem?,
      Std.ExtTreeMap.mem_toList_iff_getElem?_eq_some.mp (held ▸ List.mem_singleton.mpr rfl)]
    rfl
  have new : d.hash ∉ recorded s d.destination := by
    intro there
    obtain ⟨time, there⟩ := Option.isSome_iff_exists.mp
      (Std.ExtTreeMap.mem_iff_isSome_getElem?.mp there)
    exact absurd (time_eq _ _ there).1 (by decide)
  have earlier (hash : String) (time : Int64)
      (there : (recorded s d.destination)[hash]? = some time) : time < d.time := by
    obtain ⟨-, rfl⟩ := time_eq hash time there
    decide
  have latest : Latest (recorded s d.destination) d :=
    fun hash time there => Int64.le_of_lt (earlier hash time there)
  obtain ⟨taken, s', kept, ran, -, -, -, -, newest⟩ :=
    @fresh_message_taken_iff ledger s d (fun _ _ => rfl) (legible_of_mem known) new latest
  obtain rfl := (newest earlier).mpr le_rfl
  exact ⟨legible_of_mem known, new, latest, s', ran⟩

/-- **A fresh message that is dropped.** A ledger that may hold one hash, over a store that works,
drops a message that was never seen before and is no older than the one it holds. -/
theorem fresh_message_dropped :
    let ledger : Ledger := { most := 1 }
    let s := ledger.offered {} [⟨"05aa", "z", 5⟩]
    let d : Delivery := ⟨"05aa", "a", 5⟩
    s.Works ∧ (recorded s d.destination).toList = [("z", d.time)] ∧
      ∃ s', ledger.offer d s = .ok false s' := by
  intro ledger s d
  refine ⟨fun _ _ => rfl, by decide +kernel, ?_⟩
  have dropped : yields (ledger.offer d) s (fun taken => !taken) = true := by
    simp only [s, Ledger.offered, offer, accept, prune, byAge_eq_insertionSort]
    decide +kernel
  obtain ⟨taken, ran, refused⟩ := exists_of_yields dropped
  rw [Bool.not_eq_true'] at refused
  exact ⟨_, refused ▸ ran⟩

end ConfigReplica.Ledger
