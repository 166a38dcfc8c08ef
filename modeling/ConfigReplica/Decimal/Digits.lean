/-!
# Decimal digits

Whole numbers as decimal text: plain (`ofNat`, `ofInt`), filled up with zeros to a width (`padded`),
and read from a run of digits (`value`).
-/

namespace ConfigReplica.Decimal

/-- The digits of a number. -/
def digits (n : Nat) : List Char :=
  Nat.toDigits 10 n

/-- The number that a run of digits stands for. -/
def value (cs : List Char) : Nat :=
  Nat.ofDigitChars 10 cs 0

/-- Reading back. The digits of a number stand for it. -/
@[simp] theorem value_digits (n : Nat) : value (digits n) = n :=
  Nat.ofDigitChars_ten_toDigits

/-- Every character of a number's text is a digit. -/
theorem isDigit_of_mem_digits {n : Nat} {c : Char} (h : c ∈ digits n) : c.isDigit :=
  Nat.isDigit_of_mem_toDigits (by decide) (by decide) h

/-- A number has some digit. -/
theorem digits_ne_nil (n : Nat) : digits n ≠ [] :=
  Nat.toDigits_ne_nil

/-- A number as text. -/
def ofNat (n : Nat) : String :=
  String.ofList (digits n)

/-- The digits of a number, with a minus sign where it is negative. -/
def signed (n : Int) : List Char :=
  if n < 0 then '-' :: digits n.natAbs else digits n.natAbs

/-- A number with its sign as text. -/
def ofInt (n : Int) : String :=
  String.ofList (signed n)

/-- A number filled up on the left with zeros to at least `width` digits. -/
def padded (width n : Nat) : List Char :=
  let cs := digits n
  List.replicate (width - cs.length) '0' ++ cs

/-- Filling up does not change the number. -/
@[simp] theorem value_padded (width n : Nat) : value (padded width n) = n := by
  simp only [value, padded, Nat.ofDigitChars_append, Nat.ofDigitChars_replicate_zero, Nat.mul_zero]
  exact value_digits n

end ConfigReplica.Decimal
