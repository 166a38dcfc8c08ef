/-!
# Retention

Times are milliseconds in signed words of 64 bits. What is kept for a while is compared with the
earliest time that is still within the while; at the ends of the range that time stays in it.
-/

namespace ConfigReplica

/-- The time nearest to a number. -/
def clampTime (n : Int) : Int64 :=
  Int64.ofInt (max Int64.minValue.toInt (min n Int64.maxValue.toInt))

/-- The earliest time that is at most `retention` milliseconds before `now`. -/
def cutoff (now : Int64) (retention : Nat) : Int64 :=
  clampTime (now.toInt - min (retention : Int) Int64.maxValue.toInt)

/-- Two weeks, the longest that the network keeps a message. -/
def twoWeeks : Nat :=
  14 * 24 * 60 * 60 * 1000

end ConfigReplica
