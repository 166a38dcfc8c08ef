import ConfigReplica.Ledger
import ConfigReplica.Proofs.Retention
import Mathlib.Data.List.Sort
import Mathlib.Data.String.Basic

/-!
# What pruning keeps

Pruning first drops the hashes that are older than the retention and then keeps the latest of the
rest, as many as the ledger may hold. Of two hashes the later is the one that was seen later, or the
greater one if both were seen at the same time (`Ledger.Later`). Which times are recent is a matter
of whole numbers (`Ledger.IsRecent`), and a retention counts as the greatest time at most.

* What is kept was there before, with the same time, and is not older than the cutoff
  (`Ledger.of_mem_prune`).
* What is dropped although it is recent enough gave way to later hashes, and to as many of them as
  the ledger may hold (`Ledger.crowded_of_dropped`).
* Hence a hash is kept exactly if it is recent and fewer recent hashes are later than the ledger may
  hold (`Ledger.kept_iff`).
-/

namespace ConfigReplica

namespace Ledger

/-- The hash `a` is later than `b`: it was seen later, or at the same time and is greater. -/
def Later (a b : String × Int64) : Prop :=
  b.2 < a.2 ∨ b.2 = a.2 ∧ b.1 < a.1

instance : DecidableRel Later := fun a b =>
  inferInstanceAs (Decidable (b.2 < a.2 ∨ b.2 = a.2 ∧ b.1 < a.1))

/-- The order is strict. -/
theorem Later.asymm {a b : String × Int64} (later : Later a b) : ¬ Later b a := by
  unfold Later at later ⊢
  grind

/-- A hash outlasts those that are not later. -/
theorem outlasts_iff {a b : String × Int64} : outlasts a b = true ↔ ¬ Later b a := by
  have first : compare b.2 a.2 = .gt ↔ a.2 < b.2 := Std.compare_eq_gt
  have second : compare b.1 a.1 = .gt ↔ a.1 < b.1 := compare_gt_iff_gt
  have same : compare b.2 a.2 = .eq ↔ b.2 = a.2 := Std.compare_eq_iff_eq
  have whole : outlasts a b = ((compare b.2 a.2).then (compare b.1 a.1)).isLE := rfl
  unfold Later
  rw [whole, ← first, ← second, eq_comm (a := a.2), ← same]
  cases compare b.2 a.2 <;> cases compare b.1 a.1 <;> simp [Ordering.then]

/-- Of two different hashes one is later. -/
theorem later_of_outlasts {a b : String × Int64} (outlasts : outlasts a b = true) (other : a ≠ b) :
    Later a b := by
  have not := outlasts_iff.mp outlasts
  unfold Later at not ⊢
  -- of one time the hashes decide
  rcases lt_trichotomy a.1 b.1 with less | same | greater
  · grind
  · grind
  · grind

/-- Every hash is in the order once. -/
theorem nodup_toList (seen : Received) : seen.toList.Nodup := by
  have distinct := Std.ExtTreeMap.distinct_keys_toList (t := seen)
  refine distinct.imp fun {a b} different same => ?_
  rw [same] at different
  exact different Std.ReflCmp.compare_self

/-- What outlasts is passed on. -/
theorem outlasts_trans {a b c : String × Int64} (ab : outlasts a b = true)
    (bc : outlasts b c = true) : outlasts a c = true :=
  @Std.TransCmp.isLE_trans _ (compareLex (compareOn Prod.snd) (compareOn Prod.fst))
    inferInstance _ _ _ bc ab

/-- Of two hashes one outlasts the other. -/
theorem outlasts_total (a b : String × Int64) : outlasts a b = true ∨ outlasts b a = true := by
  by_contra neither
  rw [not_or, outlasts_iff, outlasts_iff, not_not, not_not] at neither
  exact neither.1.asymm neither.2

/-- The hashes stand in order from the latest to the earliest. -/
theorem pairwise_byAge (seen : Received) : (byAge seen).Pairwise Later := by
  have sorted : (byAge seen).Pairwise fun a b => outlasts a b = true := by
    refine List.pairwise_mergeSort ?_ ?_ _
    · intro a b c
      exact outlasts_trans
    · intro a b
      rw [Bool.or_eq_true]
      exact outlasts_total a b
  have nodup : (byAge seen).Nodup := (List.mergeSort_perm _ _).nodup_iff.mpr (nodup_toList seen)
  exact (sorted.and nodup).imp fun ⟨outlasts, other⟩ => later_of_outlasts outlasts other

/-- The order is also that of sorting by insertion, which can be computed by the kernel. -/
theorem byAge_eq_insertionSort (seen : Received) :
    byAge seen = seen.toList.insertionSort fun a b => outlasts a b = true := by
  have total : Std.Total fun a b => outlasts a b = true := ⟨outlasts_total⟩
  have trans : IsTrans _ fun a b => outlasts a b = true := ⟨fun _ _ _ => outlasts_trans⟩
  have antisymm : Std.Antisymm fun a b => outlasts a b = true := by
    refine ⟨fun a b ab ba => ?_⟩
    by_contra other
    exact (later_of_outlasts ab other).asymm (later_of_outlasts ba (Ne.symm other))
  rw [← List.mergeSort_eq_insertionSort]
  simp only [Bool.decide_eq_true]
  rfl

/-- The time is at most the retention ago, where the retention counts as the greatest time at
most. -/
def IsRecent (ledger : Ledger) (now time : Int64) : Prop :=
  now.toInt - min (ledger.retention : Int) Int64.maxValue.toInt ≤ time.toInt

instance (ledger : Ledger) (now time : Int64) : Decidable (ledger.IsRecent now time) :=
  inferInstanceAs (Decidable (_ ≤ _))

/-- The cutoff is cut off below only, where no time is lost. -/
theorem cutoff_le_iff_isRecent {ledger : Ledger} {now time : Int64} :
    cutoff now ledger.retention ≤ time ↔ ledger.IsRecent now time := by
  have least := Int64.toInt_minValue
  have low := time.le_toInt
  rw [Int64.le_iff_toInt_le, toInt_cutoff]
  unfold IsRecent
  omega

/-- The hashes that are not older than the retention. -/
def recent (ledger : Ledger) (now : Int64) (seen : Received) : Received :=
  seen.filter fun _ time => cutoff now ledger.retention ≤ time

/-- A recent hash was there before. -/
theorem getElem?_recent {ledger : Ledger} {now : Int64} {seen : Received} {hash : String}
    {time : Int64} : (ledger.recent now seen)[hash]? = some time ↔
      seen[hash]? = some time ∧ cutoff now ledger.retention ≤ time := by
  unfold recent
  rw [Std.ExtTreeMap.getElem?_filter]
  cases seen[hash]? with
  | none => simp
  | some t =>
    simp only [Option.pfilter_some, decide_eq_true_eq, Option.ite_none_right_eq_some,
      Option.some.injEq]
    constructor
    · rintro ⟨le, rfl⟩
      exact ⟨rfl, le⟩
    · rintro ⟨rfl, le⟩
      exact ⟨le, rfl⟩

/-- Where no key is given twice, a map holds what it was made of. -/
theorem getElem?_ofList_iff {entries : List (String × Int64)} {hash : String} {time : Int64}
    (distinct : entries.Pairwise fun a b => ¬ compare a.1 b.1 = .eq) :
    (Std.ExtTreeMap.ofList entries : Received)[hash]? = some time ↔ (hash, time) ∈ entries := by
  have held {t : Int64} (mem : (hash, t) ∈ entries) :
      (Std.ExtTreeMap.ofList entries : Received)[hash]? = some t :=
    Std.ExtTreeMap.getElem?_ofList_of_mem Std.ReflCmp.compare_self distinct mem
  refine ⟨fun found => ?_, held⟩
  by_cases known : hash ∈ entries.map Prod.fst
  · obtain ⟨⟨_, t⟩, mem, rfl⟩ := List.mem_map.mp known
    obtain rfl := Option.some.inj ((held mem).symm.trans found)
    exact mem
  · have absent : (entries.map Prod.fst).contains hash = false := by simpa using known
    rw [Std.ExtTreeMap.getElem?_ofList_of_contains_eq_false absent] at found
    cases found

theorem distinct_take_byAge (seen : Received) (count : Nat) :
    ((byAge seen).take count).Pairwise fun a b => ¬ compare a.1 b.1 = .eq := by
  refine List.Pairwise.sublist (List.take_sublist count _) ?_
  refine ((List.mergeSort_perm _ _).pairwise_iff fun {a b} different same => ?_).mpr
    Std.ExtTreeMap.distinct_keys_toList
  exact different (Std.OrientedCmp.eq_symm same)

/-- What is kept are the latest of the recent hashes. -/
theorem getElem?_prune {ledger : Ledger} {now : Int64} {seen : Received} {hash : String}
    {time : Int64} : (ledger.prune now seen)[hash]? = some time ↔
      (hash, time) ∈ (byAge (ledger.recent now seen)).take ledger.most :=
  getElem?_ofList_iff (distinct_take_byAge _ _)

theorem size_prune (ledger : Ledger) (now : Int64) (seen : Received) :
    (ledger.prune now seen).size = ((byAge (ledger.recent now seen)).take ledger.most).length :=
  Std.ExtTreeMap.size_ofList (distinct_take_byAge _ _)

/-- No more is kept than the ledger may hold. -/
theorem size_prune_le (ledger : Ledger) (now : Int64) (seen : Received) :
    (ledger.prune now seen).size ≤ ledger.most := by
  rw [size_prune]
  exact List.length_take_le _ _

theorem mem_byAge {seen : Received} {hash : String} {time : Int64} :
    (hash, time) ∈ byAge seen ↔ seen[hash]? = some time := by
  unfold byAge
  rw [List.mem_mergeSort, Std.ExtTreeMap.mem_toList_iff_getElem?_eq_some]

/-- **What is kept** was there before and is recent. -/
theorem of_mem_prune {ledger : Ledger} {now : Int64} {seen : Received} {hash : String}
    {time : Int64} (kept : (ledger.prune now seen)[hash]? = some time) :
    seen[hash]? = some time ∧ cutoff now ledger.retention ≤ time :=
  getElem?_recent.mp (mem_byAge.mp (List.mem_of_mem_take (getElem?_prune.mp kept)))

/-- As many hashes are held as may be, all of them others and later than a certain one. -/
def Crowded (ledger : Ledger) (held : Received) (hash : String) (time : Int64) : Prop :=
  held.size = ledger.most ∧ held[hash]? = none ∧
    ∀ hash' time', held[hash']? = some time' → Later (hash', time') (hash, time)

/-- **What is dropped** although it is recent gave way to later hashes. -/
theorem crowded_of_dropped {ledger : Ledger} {now : Int64} {seen : Received} {hash : String}
    {time : Int64} (there : seen[hash]? = some time) (late : cutoff now ledger.retention ≤ time)
    (dropped : (ledger.prune now seen)[hash]? ≠ some time) :
    ledger.Crowded (ledger.prune now seen) hash time := by
  let order := byAge (ledger.recent now seen)
  have mem : (hash, time) ∈ order := mem_byAge.mpr (getElem?_recent.mpr ⟨there, late⟩)
  -- it stands in the part of the order that is cut off
  have cut : (hash, time) ∈ order.drop ledger.most := by
    rw [← List.take_append_drop ledger.most order, List.mem_append] at mem
    exact mem.resolve_left fun kept => dropped (getElem?_prune.mpr kept)
  refine ⟨?_, ?_, fun hash' time' held => ?_⟩
  · have longer : ledger.most < order.length := by
      by_contra short
      rw [List.drop_eq_nil_of_le (Nat.not_lt.mp short)] at cut
      cases cut
    rw [size_prune, List.length_take, Nat.min_eq_left longer.le]
  · refine Option.eq_none_iff_forall_ne_some.mpr fun t kept => dropped ?_
    rw [kept, ← there, (of_mem_prune kept).1]
  · have sorted := pairwise_byAge (ledger.recent now seen)
    rw [← List.take_append_drop ledger.most (byAge _), List.pairwise_append] at sorted
    exact sorted.2.2 _ (getElem?_prune.mp held) _ cut

/-- In a list sorted by a strict order, the first elements are those with few before them. -/
theorem mem_take_iff_countP_lt {α : Type} {R : α → α → Prop} [DecidableRel R]
    (asymm : ∀ {a b}, R a b → ¬ R b a) {order : List α} (sorted : order.Pairwise R) {x : α}
    (mem : x ∈ order) (count : Nat) :
    x ∈ order.take count ↔ order.countP (fun a => R a x) < count := by
  -- nothing stands before itself
  have irrefl : ∀ a, ¬ R a a := fun a before => asymm before before
  induction order generalizing count with
  | nil => cases mem
  | cons a rest ih =>
    rw [List.pairwise_cons] at sorted
    cases count with
    | zero => simp
    | succ count =>
      rw [List.take_succ_cons, List.mem_cons, List.countP_cons]
      rcases List.mem_cons.mp mem with rfl | later
      · -- the first element has none before it
        have none : rest.countP (fun a => R a x) = 0 := by
          refine List.countP_eq_zero.mpr fun b here => ?_
          simpa using asymm (sorted.1 b here)
        simp [none, irrefl]
      · have before : R a x := sorted.1 x later
        have other : x ≠ a := by
          rintro rfl
          exact irrefl x before
        have tail : x ∈ rest.take count ↔ rest.countP (fun a => R a x) < count :=
          ih sorted.2 later count
        simp [before, other, tail]

/-- **What is kept, by rank**: a hash is kept if it is recent, and fewer recent hashes are later
than the ledger may hold. -/
theorem kept_iff {ledger : Ledger} {now : Int64} {seen : Received} {hash : String} {time : Int64} :
    (ledger.prune now seen)[hash]? = some time ↔
      (ledger.recent now seen)[hash]? = some time ∧
        (ledger.recent now seen).toList.countP (fun e => Later e (hash, time)) < ledger.most := by
  let order := byAge (ledger.recent now seen)
  have same : order.countP (fun e => Later e (hash, time)) =
      (ledger.recent now seen).toList.countP fun e => Later e (hash, time) :=
    (List.mergeSort_perm _ _).countP_eq _
  rw [getElem?_prune, ← same]
  constructor
  · intro kept
    have mem := List.mem_of_mem_take kept
    refine ⟨mem_byAge.mp mem, ?_⟩
    exact (mem_take_iff_countP_lt Later.asymm (pairwise_byAge _) mem _).mp kept
  · rintro ⟨recent, few⟩
    have mem : (hash, time) ∈ order := mem_byAge.mpr recent
    exact (mem_take_iff_countP_lt Later.asymm (pairwise_byAge _) mem _).mpr few

end Ledger

end ConfigReplica
