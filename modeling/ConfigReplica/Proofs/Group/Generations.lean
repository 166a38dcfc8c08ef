import ConfigReplica.Config.Group
import ConfigReplica.Proofs.Edit.Plan
import ConfigReplica.Proofs.State.Records
import Mathlib.Algebra.Group.Nat.Defs

/-!
# Generations in order

The keys of a group are filed under their generations, in twenty decimal digits.
Twenty digits hold any word, so different generations have different keys
(`GroupKey.keyOf_injective`) and texts are ordered as numbers are
(`GroupKey.keyOf_lt`). The last record that is read is therefore the newest one, and
the generation after it is above all others (`GroupKey.lt_nextGeneration`), unless the
words run out. Where all keys are in their places (`GroupKey.InPlace`), nothing is filed
under that generation (`GroupKey.find?_nextGeneration`), so rotation succeeds and
writes one entry (`GroupKey.rekey_eq`).
-/

namespace ConfigReplica

/-! ### Padded numbers are ordered as numbers -/

namespace Decimal

/-- A number below ten has one digit. -/
theorem digits_of_lt {n : Nat} (small : n < 10) : digits n = [Nat.digitChar n] :=
  Nat.toDigits_of_lt_base small

/-- The last digit stands last, also behind zeros. -/
theorem padded_succ (width n : Nat) :
    padded (width + 2) n = padded (width + 1) (n / 10) ++ [Nat.digitChar (n % 10)] := by
  unfold padded
  by_cases small : n < 10
  · rw [Nat.div_eq_of_lt small, Nat.mod_eq_of_lt small, digits_of_lt small,
      digits_of_lt (n := 0) (by decide)]
    have zero : Nat.digitChar 0 = '0' := by decide
    simp only [List.length_singleton, Nat.add_sub_cancel, zero]
    rw [← List.replicate_succ']
    rfl
  · -- from ten on both have as many zeros in front
    have split : digits n = digits (n / 10) ++ [Nat.digitChar (n % 10)] :=
      Nat.toDigits_of_base_le (by decide) (by omega)
    simp only [split, List.length_append, List.length_singleton]
    rw [← List.append_assoc]
    congr 3
    omega

/-- A padded number has as many digits as were asked for. -/
theorem length_padded {width n : Nat} (fits : n < 10 ^ (width + 1)) :
    (padded (width + 1) n).length = width + 1 := by
  induction width generalizing n with
  | zero =>
    have small : n < 10 := by simpa using fits
    simp [padded, digits_of_lt small]
  | succ width ih =>
    have less : n / 10 < 10 ^ (width + 1) := by
      rw [Nat.pow_succ] at fits
      exact Nat.div_lt_of_lt_mul (by rwa [Nat.mul_comm])
    rw [padded_succ, List.length_append, ih less, List.length_singleton]

/-- Digits are ordered as the numbers they stand for. -/
theorem digitChar_lt : ∀ b < 10, ∀ a < b, Nat.digitChar a < Nat.digitChar b := by
  decide

/-- Lists of one length are ordered by their fronts first. -/
theorem append_lt_append {xs ys : List Char} (same : xs.length = ys.length) (less : xs < ys)
    (xs' ys' : List Char) : xs ++ xs' < ys ++ ys' := by
  induction xs generalizing ys with
  | nil =>
    obtain rfl : ys = [] := List.eq_nil_of_length_eq_zero same.symm
    exact absurd less (List.lt_irrefl [])
  | cons x xs ih =>
    cases ys with
    | nil => exact absurd same (by simp)
    | cons y ys =>
      rw [List.cons_append, List.cons_append, List.cons_lt_cons_iff]
      rcases List.cons_lt_cons_iff.mp less with first | ⟨rfl, others⟩
      · exact .inl first
      · exact .inr ⟨rfl, ih (Nat.succ.inj same) others⟩

/-- **Padded numbers are ordered as numbers**, as long as they fit. -/
theorem padded_lt {width a b : Nat} (less : a < b) (fits : b < 10 ^ (width + 1)) :
    padded (width + 1) a < padded (width + 1) b := by
  induction width generalizing a b with
  | zero =>
    have small : b < 10 := by simpa using fits
    have first := digitChar_lt b small a less
    simpa [padded, digits_of_lt small, digits_of_lt (Nat.lt_trans less small),
      List.cons_lt_cons_iff] using first
  | succ width ih =>
    have fits' : b / 10 < 10 ^ (width + 1) := by
      rw [Nat.pow_succ] at fits
      exact Nat.div_lt_of_lt_mul (by rwa [Nat.mul_comm])
    rw [padded_succ, padded_succ]
    -- the fronts are compared first, and they are numbers of one digit less
    by_cases front : a / 10 < b / 10
    · refine append_lt_append ?_ (ih front fits') _ _
      rw [length_padded fits', length_padded (Nat.lt_trans front fits')]
    · -- the fronts are equal, and the last digits decide
      have same : a / 10 = b / 10 := by omega
      rw [same]
      refine List.append_left_lt (List.cons_lt_cons_iff.mpr (.inl ?_))
      exact digitChar_lt _ (by omega) _ (by omega)

end Decimal

namespace Config.GroupKey

/-! ### Keys of generations -/

/-- The text of a key can be read. -/
theorem isSound_shape : (Record.shape GroupKey).isSound = true := by
  decide

/-- **Keys are ordered as their generations.** -/
theorem keyOf_lt {a b : UInt64} (less : a < b) : compare (keyOf a) (keyOf b) = .lt := by
  refine compareOfLessAndEq_eq_lt.mpr ?_
  rw [String.lt_iff, keyOf, keyOf, String.toList_ofList, String.toList_ofList]
  refine Decimal.padded_lt (UInt64.lt_iff_toNat_lt.mp less) ?_
  exact Nat.lt_trans b.toNat_lt (by decide)

/-- Different generations have different keys. -/
theorem keyOf_injective : Function.Injective keyOf := by
  intro a b same
  have values := congrArg (fun key => Decimal.value key.toList) same
  simp only [keyOf, String.toList_ofList, Decimal.value_padded] at values
  exact UInt64.toNat_inj.mp values

/-- No generation has an empty key. -/
theorem keyOf_ne_empty (generation : UInt64) : (keyOf generation).isEmpty = false := by
  have long : (keyOf generation).toList.length = 20 := by
    rw [keyOf, String.toList_ofList]
    exact Decimal.length_padded (Nat.lt_trans generation.toNat_lt (by decide))
  rw [Bool.eq_false_iff]
  intro empty
  rw [String.isEmpty_iff.mp empty] at long
  exact absurd long (by decide)

/-- Records in the order of their keys are in the order of their generations. -/
theorem generation_lt {a b : GroupKey}
    (ordered : compare (Record.key a) (Record.key b) = .lt) : a.generation < b.generation := by
  -- the keys would be equal or in the other order if the generations were
  rcases Nat.lt_trichotomy a.generation.toNat b.generation.toNat with less | same | more
  · exact UInt64.lt_iff_toNat_lt.mpr less
  · have equal : Record.key a = Record.key b := congrArg keyOf (UInt64.toNat_inj.mp same)
    have self : compare (Record.key b) (Record.key b) = .eq := Std.ReflCmp.compare_self
    rw [equal, self] at ordered
    exact absurd ordered (by decide)
  · have swapped : compare (Record.key b) (Record.key a) = .lt :=
      keyOf_lt (UInt64.lt_iff_toNat_lt.mpr more)
    rw [Std.OrientedCmp.gt_of_lt ordered] at swapped
    exact absurd swapped (by decide)

variable {keys : List GroupKey}

/-- The last record is the newest one. -/
theorem generation_le_getLast
    (ordered : keys.Pairwise fun a b => compare (Record.key a) (Record.key b) = .lt)
    {newest : GroupKey} (last : keys.getLast? = some newest) :
    ∀ k ∈ keys, k.generation ≤ newest.generation := by
  obtain ⟨before, rfl⟩ := List.getLast?_eq_some_iff.mp last
  intro k mem
  rcases List.mem_append.mp mem with mem | mem
  · have less := (List.pairwise_append.mp ordered).2.2 k mem newest (List.mem_singleton.mpr rfl)
    exact UInt64.le_of_lt (generation_lt less)
  · rw [List.mem_singleton.mp mem]
    exact UInt64.le_refl _

/-- **The next generation is new**, as long as generations do not run out. -/
theorem lt_nextGeneration
    (ordered : keys.Pairwise fun a b => compare (Record.key a) (Record.key b) = .lt)
    (room : ∀ k ∈ keys, k.generation.toNat + 1 < UInt64.size) :
    ∀ k ∈ keys, k.generation < nextGeneration keys := by
  intro k mem
  unfold nextGeneration
  cases last : keys.getLast? with
  | none =>
    rw [List.getLast?_eq_none_iff.mp last] at mem
    exact absurd mem List.not_mem_nil
  | some newest =>
    have bound := UInt64.le_iff_toNat_le.mp (generation_le_getLast ordered last k mem)
    have space := room newest (List.mem_of_getLast? last)
    have size : UInt64.size = 2 ^ 64 := rfl
    rw [UInt64.lt_iff_toNat_lt, UInt64.toNat_add, UInt64.toNat_one, Nat.mod_eq_of_lt (by omega)]
    omega

/-- Generations are passed through one by one. -/
theorem toNat_nextGeneration_le {bound : Nat} (below : ∀ k ∈ keys, k.generation.toNat < bound) :
    (nextGeneration keys).toNat ≤ bound := by
  unfold nextGeneration
  cases last : keys.getLast? with
  | none => exact Nat.zero_le bound
  | some newest =>
    have less := below newest (List.mem_of_getLast? last)
    rw [UInt64.toNat_add, UInt64.toNat_one]
    exact Nat.le_trans (Nat.mod_le _ _) less

/-! ### Keys in their places -/

/-- **In its place**: what is written to the collection of keys is a key, under its generation. -/
def InPlace (w : Write) : Prop :=
  w.1 = Collection.keys →
    ∃ k : GroupKey, keyOf k.generation = w.2.1 ∧ w.2.2.value = some (Record.encode k)

variable {s : State}

/-- Keys in their places are filed. -/
theorem files_of_inPlace (inPlace : s.Every InPlace) : s.Files GroupKey := by
  intro key text shown
  obtain ⟨e, found, value⟩ := Option.bind_eq_some_iff.mp shown
  obtain ⟨k, place, holds⟩ := inPlace _ _ _ found rfl
  exact ⟨k, place, Option.some.inj (holds.symm.trans value)⟩

/-- Nothing is filed under the next generation: it would be one of the keys below it. -/
theorem find?_nextGeneration (inPlace : s.Every InPlace) (read : s.records GroupKey = .ok keys)
    (room : ∀ k ∈ keys, k.generation.toNat + 1 < UInt64.size) :
    s.find? Collection.keys (keyOf (nextGeneration keys)) = none := by
  obtain ⟨keys', read', mem_iff, ordered⟩ :=
    State.records_of_files isSound_shape (files_of_inPlace inPlace)
  obtain rfl : keys = keys' := Except.ok.inj (read.symm.trans read')
  cases found : s.find? Collection.keys (keyOf (nextGeneration keys)) with
  | none => rfl
  -- a key that is filed there would be listed, and so be below the next generation
  | some e =>
    obtain ⟨k, place, holds⟩ := inPlace _ _ _ found rfl
    have shown : s.get? Collection.keys (keyOf k.generation) = some (Record.encode k) := by
      rw [State.get?, place, found]
      exact holds
    have less := lt_nextGeneration ordered room k ((mem_iff k).mpr shown)
    rw [keyOf_injective place] at less
    exact absurd less (UInt64.lt_irrefl _)

/-! ### Rotation -/

/-- Rotation is built from the operations on drafts. -/
def rekeyPlan : EditM.Plan rekey :=
  .bind (.records GroupKey) fun _ => .bind (.draw 32) fun _ =>
    .bind (.map _ (.setRecord _)) fun _ => .pure _

/-- **Rotation writes one key**, of the next generation, if that is new. -/
theorem rekey_eq {d : Draft} (home : d.variant = .groupKeys)
    (read : d.state.records GroupKey = .ok keys)
    (new : d.state.find? Collection.keys (keyOf (nextGeneration keys)) = none) :
    ∃ (k : GroupKey) (entropy : Entropy), k.generation = nextGeneration keys ∧
      rekey d = .ok k { d with
        entropy
        state := d.state.put Collection.keys (keyOf k.generation)
          { timestamp := d.timestamp, origin := d.origin, value := some (Record.encode k) } } := by
  let k : GroupKey :=
    { generation := nextGeneration keys, key := Hex.encode (d.entropy.block 32).1.toList }
  let drawn : Draft := { d with entropy := (d.entropy.block 32).2 }
  refine ⟨k, (d.entropy.block 32).2, rfl, ?_⟩
  -- the keys are listed, random bytes are drawn, and the new key is stored
  have listed : EditM.records GroupKey d = .ok keys d := EditM.records_of_home home.symm read
  have drew : EditM.draw 32 d = .ok (d.entropy.block 32).1 drawn := rfl
  have declared : d.variant.rule? Collection.keys = some .addOnly := by
    rw [home]
    rfl
  have stored := EditM.setRecord_of_new k (d := drawn) home.symm declared
    (keyOf_ne_empty k.generation) new
  rw [rekey, EditM.bind_of_ok listed, EditM.bind_of_ok drew,
    EditM.bind_of_ok (EditM.discard_of_ok stored)]
  rfl

end Config.GroupKey

end ConfigReplica
