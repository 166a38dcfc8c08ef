import ConfigReplica.Json.Shape
import Mathlib.Tactic.SplitIfs

/-!
# Written numbers and texts are read back

The two kinds of JSON that have to be looked at character by character:

* `scanNumber_signed` — the digits of an integer of 64 bits are scanned as that
  integer, whatever follows them, as long as it does not go on with the number
  (`EndsNumber`). The writer puts no zeros in front, which the scanner refuses;
* `scanText_escape` — a text between quotes is scanned as itself, with every quote,
  backslash and control character that the writer escaped.
-/

namespace ConfigReplica

namespace Decimal

/-- Only zero has the digit zero. -/
theorem eq_zero_of_digitChar : ∀ n < 10, Nat.digitChar n = '0' → n = 0 := by
  decide

/-- Only zero is written with a zero in front. -/
theorem eq_zero_of_digits_cons {n : Nat} {rest : List Char} (h : digits n = '0' :: rest) :
    n = 0 := by
  induction n using Nat.strongRecOn generalizing rest with
  | ind n ih =>
    unfold digits at h
    rw [Nat.toDigits_eq_if (by decide)] at h
    by_cases small : n < 10
    · rw [if_pos small] at h
      exact eq_zero_of_digitChar n small (List.cons.inj h).1
    · -- all digits but the last are those of `n / 10`, which start as those of `n` do
      rw [if_neg small] at h
      obtain ⟨c, cs, front⟩ := List.exists_cons_of_ne_nil (digits_ne_nil (n / 10))
      have same : c = '0' := by
        rw [show Nat.toDigits 10 (n / 10) = c :: cs from front] at h
        exact (List.cons.inj h).1
      rw [same] at front
      have zero := ih (n / 10) (by omega) front
      omega

end Decimal

namespace Json

/-! ### Numbers -/

/-- What follows does not belong to a number. -/
def EndsNumber (rest : List Char) : Prop :=
  ∀ c cs, rest = c :: cs → c.isDigit = false ∧ c ≠ '.' ∧ c ≠ 'e' ∧ c ≠ 'E'

/-- Digits are read as far as they go. -/
theorem spanDigits_append {ds rest : List Char} (digits : ∀ c ∈ ds, c.isDigit = true)
    (ends : EndsNumber rest) : spanDigits (ds ++ rest) = (ds, rest) := by
  have stop : rest.takeWhile Char.isDigit = [] ∧ rest.dropWhile Char.isDigit = rest := by
    cases rest with
    | nil => exact ⟨rfl, rfl⟩
    | cons c cs =>
      have other := (ends c cs rfl).1
      exact ⟨List.takeWhile_cons_of_neg (by simp [other]), List.dropWhile_cons_of_neg (by simp [other])⟩
  unfold spanDigits
  rw [List.takeWhile_append_of_pos digits, List.dropWhile_append_of_pos digits, stop.1, stop.2,
    List.append_nil]

/-- Digits never make a significand smaller. -/
theorem le_ofDigitChars (cs : List Char) (n : Nat) : n ≤ Nat.ofDigitChars 10 cs n := by
  induction cs generalizing n with
  | nil => exact Nat.le_refl n
  | cons c cs ih =>
    rw [Nat.ofDigitChars_cons]
    calc n ≤ 10 * n + (c.toNat - '0'.toNat) := by omega
      _ ≤ _ := ih _

/-- A significand that fits is read to its end. -/
theorem extend_eq {cs : List Char} {n : Nat} (fits : Nat.ofDigitChars 10 cs n ≤ maxWord) :
    extend n cs = (Nat.ofDigitChars 10 cs n, []) := by
  induction cs generalizing n with
  | nil => rfl
  | cons c cs ih =>
    rw [Nat.ofDigitChars_cons] at fits ⊢
    -- the number only grows, so it fits at every digit if it fits at the end
    have next : 10 * n + (c.toNat - '0'.toNat) ≤ maxWord := Nat.le_trans (le_ofDigitChars cs _) fits
    unfold extend
    rw [if_pos next]
    exact ih fits

/-- The digits of a magnitude of 64 bits are scanned as the integer with the sign. -/
theorem scanMagnitude_digits (isNegative : Bool) {n : Nat} (fits : n ≤ maxWord)
    {rest : List Char} (ends : EndsNumber rest) :
    scanMagnitude isNegative (Decimal.digits n ++ rest) =
      (integer isNegative n).map fun value => (value, rest) := by
  have run := spanDigits_append (fun _ => Decimal.isDigit_of_mem_digits (n := n)) ends
  have whole : extend 0 (Decimal.digits n) = (n, []) := by
    have value : Nat.ofDigitChars 10 (Decimal.digits n) 0 = n := Decimal.value_digits n
    rw [extend_eq (by rwa [value]), value]
  unfold scanMagnitude
  simp only [run]
  split
  · next none => exact absurd none (Decimal.digits_ne_nil n)
  · -- more digits after a zero would be those of a number with a zero in front
    next c cs front =>
    obtain rfl := Decimal.eq_zero_of_digits_cons front
    exact absurd front (by simp [Decimal.digits])
  · rw [whole]
    cases rest with
    | nil => rfl
    | cons c cs =>
      obtain ⟨-, point, small, large⟩ := ends c cs rfl
      simp only
      split
      · next h => exact absurd (List.cons.inj h).1 point
      · next h => exact absurd (List.cons.inj h).1 small
      · next h => exact absurd (List.cons.inj h).1 large
      · rfl

/-- **Integers are scanned as written.** -/
theorem scanNumber_signed {n : Int} (low : Int64.minValue.toInt ≤ n) (high : n ≤ maxWord)
    {rest : List Char} (ends : EndsNumber rest) :
    scanNumber (Decimal.signed n ++ rest) = .ok (.integer n, rest) := by
  have least : Int64.minValue.toInt = -9223372036854775808 := rfl
  have fits : n.natAbs ≤ maxWord := by
    have wide : maxWord = 18446744073709551615 := rfl
    omega
  unfold Decimal.signed
  by_cases negative : n < 0
  · rw [if_pos negative, List.cons_append, scanNumber, scanMagnitude_digits true fits ends]
    -- the magnitude is neither zero nor too large to be negated
    have small : ¬ (n.natAbs = 0 ∨ 1 <<< 63 < n.natAbs) := by
      have greatest : 1 <<< 63 = 9223372036854775808 := rfl
      omega
    have value : -(n.natAbs : Int) = n := by omega
    simp only [integer, Bool.not_true, Bool.false_eq_true, if_false, if_neg small, value]
    rfl
  · rw [if_neg negative]
    obtain ⟨c, cs, front⟩ := List.exists_cons_of_ne_nil (Decimal.digits_ne_nil n.natAbs)
    have digit : c.isDigit = true :=
      Decimal.isDigit_of_mem_digits (n := n.natAbs) (by rw [front]; exact List.mem_cons_self ..)
    -- what starts with a digit has no sign
    have unsigned : scanNumber (Decimal.digits n.natAbs ++ rest) =
        scanMagnitude false (Decimal.digits n.natAbs ++ rest) := by
      rw [front, List.cons_append, scanNumber]
      rintro tail h
      rw [(List.cons.inj h).1] at digit
      exact absurd digit (by decide)
    rw [unsigned, scanMagnitude_digits false fits ends]
    have value : (n.natAbs : Int) = n := by omega
    simp only [integer, Bool.not_false, if_true, value]
    rfl

/-! ### Texts -/

/-- A digit that is written stands for its number. -/
theorem hex_value_digit : ∀ n < 16, Hex.value? (Hex.digit n) = some n := by
  decide

/-- A control character by its number. -/
theorem scanUnit_control {n : Nat} (small : n < 256) (rest : List Char) :
    scanUnit ('0' :: '0' :: Hex.digit (n / 16) :: Hex.digit (n % 16) :: rest) = .ok (n, rest) := by
  have high := hex_value_digit (n / 16) (by omega)
  have low := hex_value_digit (n % 16) (by omega)
  have zero : Hex.value? '0' = some 0 := by decide
  unfold scanUnit
  -- the scanner wants four bytes, and four characters have at least as many
  have long : ¬ (String.ofList
      (('0' :: '0' :: Hex.digit (n / 16) :: Hex.digit (n % 16) :: rest).take 4)).utf8ByteSize < 4 := by
    have one : "0".utf8ByteSize = 1 := rfl
    have second := Char.utf8Size_pos (Hex.digit (n / 16))
    have third := Char.utf8Size_pos (Hex.digit (n % 16))
    simp
    omega
  rw [if_neg long]
  simp only [zero, high, low]
  congr 2
  omega

/-- A character is scanned back from what was written for it. -/
theorem scanTextWithin_escape (c : Char) (fuel : Nat) (rest : List Char) :
    scanTextWithin (fuel + 1) (escape c ++ rest) =
      (scanTextWithin fuel rest).map fun (cs, rest) => (c :: cs, rest) := by
  -- after a backslash the scanner goes on behind the escape
  have escaped {written : List Char} (back : scanEscape (written ++ rest) = .ok (c, rest)) :
      scanTextWithin (fuel + 1) (('\\' :: written) ++ rest) =
        (scanTextWithin fuel rest).map fun (cs, rest) => (c :: cs, rest) := by
    rw [List.cons_append, scanTextWithin, if_pos rfl, back]
    · simp only
      cases scanTextWithin fuel rest <;> rfl
    · decide
  unfold escape
  split_ifs with quote backslash backspace feed newline carriage tab control
  · exact escaped (by rw [quote]; rfl)
  · exact escaped (by rw [backslash]; rfl)
  · exact escaped (by rw [backspace]; rfl)
  · exact escaped (by rw [feed]; rfl)
  · exact escaped (by rw [newline]; rfl)
  · exact escaped (by rw [carriage]; rfl)
  · exact escaped (by rw [tab]; rfl)
  · -- a control character is written by its number, which is no half of a pair
    refine escaped ?_
    have number := scanUnit_control (n := c.toNat) (by omega) rest
    have low : ¬ (0xDC00 ≤ c.toNat ∧ c.toNat ≤ 0xDFFF) := by omega
    have plain : c.toNat < 0xD800 ∨ 0xDBFF < c.toNat := by omega
    simp only [List.cons_append, List.nil_append, scanEscape, scanNumbered, number, if_neg low,
      if_pos plain, Char.ofNat_toNat]
  · rw [List.cons_append, List.nil_append, scanTextWithin, if_neg backslash, if_neg control]
    · cases scanTextWithin fuel rest <;> rfl
    · exact quote

/-- The characters of a text are scanned one by one. -/
theorem scanTextWithin_flatMap (cs : List Char) {fuel : Nat} (enough : cs.length ≤ fuel)
    (rest : List Char) :
    scanTextWithin fuel (cs.flatMap escape ++ '"' :: rest) = .ok (cs, rest) := by
  induction cs generalizing fuel with
  | nil => cases fuel <;> rfl
  | cons c cs ih =>
    -- every character takes one unit of fuel, so there is some for the first
    obtain ⟨fuel, rfl⟩ : ∃ less, fuel = less + 1 := Nat.exists_eq_succ_of_ne_zero (by
      rintro rfl
      exact absurd enough (by simp))
    rw [List.flatMap_cons, List.append_assoc, scanTextWithin_escape,
      ih (Nat.le_of_succ_le_succ enough)]
    rfl

/-- No character is written as nothing. -/
theorem length_le_flatMap_escape (cs : List Char) : cs.length ≤ (cs.flatMap escape).length := by
  induction cs with
  | nil => exact Nat.le_refl _
  | cons c cs ih =>
    have some : 0 < (escape c).length := by
      unfold escape
      split_ifs <;> simp
    rw [List.flatMap_cons, List.length_append, List.length_cons]
    omega

/-- **Texts are scanned as written.** -/
theorem scanText_escape (text : String) (rest : List Char) :
    scanText (text.toList.flatMap escape ++ '"' :: rest) = .ok (text, rest) := by
  have enough : text.toList.length ≤ (text.toList.flatMap escape ++ '"' :: rest).length := by
    rw [List.length_append]
    exact Nat.le_trans (length_le_flatMap_escape _) (Nat.le_add_right ..)
  unfold scanText
  simp only
  rw [scanTextWithin_flatMap text.toList enough rest]
  simp [Except.map]

end Json

end ConfigReplica
