import ConfigReplica.Retention

/-!
# What is within the retention

What is kept for a while is kept from the cutoff on: the present time less the retention, which is
the least time there is if the difference is less (`toInt_cutoff`). Hence the cutoff is never after
the present (`cutoff_le`), and does not go back as time goes on (`cutoff_mono`).
-/

namespace ConfigReplica

/-- The cutoff as a number. The retention counts as the greatest time at most, so the difference can
only be cut off below. -/
theorem toInt_cutoff (now : Int64) (retention : Nat) :
    (cutoff now retention).toInt =
      max Int64.minValue.toInt (now.toInt - min (retention : Int) Int64.maxValue.toInt) := by
  have least := Int64.toInt_minValue
  have greatest := Int64.toInt_maxValue
  have low := now.le_toInt
  have high := now.toInt_lt
  unfold cutoff clampTime
  rw [Int64.toInt_ofInt_of_le] <;> omega

/-- A time is within every while that ends at it. -/
theorem cutoff_le (now : Int64) (retention : Nat) : cutoff now retention ≤ now := by
  have low := now.le_toInt
  rw [Int64.le_iff_toInt_le, toInt_cutoff, Int64.toInt_minValue, Int64.toInt_maxValue]
  omega

/-- What is past the retention stays so as time goes on. -/
theorem cutoff_mono {now now' : Int64} (le : now ≤ now') (retention : Nat) :
    cutoff now retention ≤ cutoff now' retention := by
  rw [Int64.le_iff_toInt_le] at le
  rw [Int64.le_iff_toInt_le, toInt_cutoff, toInt_cutoff]
  omega

/-- A time stands exactly if it is at most the retention ago, if time began at zero. -/
theorem cutoff_le_iff {now time : Int64} (begun : 0 ≤ time) (past : time ≤ now) (retention : Nat) :
    cutoff now retention ≤ time ↔ now.toInt - time.toInt ≤ retention := by
  have high := now.toInt_lt
  rw [Int64.le_iff_toInt_le, toInt_cutoff, Int64.toInt_minValue, Int64.toInt_maxValue]
  rw [Int64.le_iff_toInt_le] at begun past
  rw [Int64.toInt_zero] at begun
  omega

end ConfigReplica
