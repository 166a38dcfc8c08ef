import ConfigReplica.Decimal.Digits

/-!
# The shortest decimal of a floating-point number

A finite floating-point number is `m * 2 ^ q`. The reals that round to it form an interval; the
shortest decimal is the one with the fewest digits in that interval, and of those with equally few
the nearest to the number, an even one if two are as near. It is found in exact arithmetic: for each
number of digits the two neighbours of the number on that decimal grid are tried.
-/

namespace ConfigReplica.Decimal

/-- A positive binary number `significand * 2 ^ exponent`, and whether it is the smallest of its
binade, so that the gap below it is half the gap above. -/
structure Binary where
  significand : Nat
  exponent : Int
  isBoundary : Bool

/-- The parts of the magnitude of a finite number. -/
def Binary.ofBits (bits : UInt64) : Binary :=
  let fraction : Nat := bits.toNat % (1 <<< 52)
  let biased : Nat := (bits.toNat >>> 52) % (1 <<< 11)
  if biased = 0 then { significand := fraction, exponent := -1074, isBoundary := false }
  else
    { significand := fraction + (1 <<< 52)
      exponent := (biased : Int) - 1075
      isBoundary := fraction = 0 && 1 < biased }

/-- A positive fraction. -/
structure Ratio where
  num : Nat
  den : Nat

/-- `n * 2 ^ e` as a fraction. -/
def Ratio.scaled (n : Nat) (e : Int) : Ratio :=
  if 0 ≤ e then ⟨n <<< e.toNat, 1⟩ else ⟨n, 1 <<< (-e).toNat⟩

/-- Compares a decimal `d * 10 ^ e` with a fraction. -/
def compareDecimal (d : Nat) (e : Int) (r : Ratio) : Ordering :=
  if 0 ≤ e then compare (d * Nat.pow 10 e.toNat * r.den) r.num
  else compare (d * r.den) (r.num * Nat.pow 10 (-e).toNat)

/-- The whole part of a fraction over `10 ^ e`. -/
def Ratio.floorAt (r : Ratio) (e : Int) : Nat :=
  if 0 ≤ e then r.num / (r.den * Nat.pow 10 e.toNat) else r.num * Nat.pow 10 (-e).toNat / r.den

/-- The interval of reals that round to a number: its ends, and whether they belong to it. -/
structure Interval where
  low : Ratio
  high : Ratio
  closed : Bool

/-- The interval of a binary number; its ends lie half way to the neighbours. -/
def Binary.interval (b : Binary) : Interval :=
  { low :=
      if b.isBoundary then .scaled (4 * b.significand - 1) (b.exponent - 2)
      else .scaled (2 * b.significand - 1) (b.exponent - 1)
    high := .scaled (2 * b.significand + 1) (b.exponent - 1)
    closed := b.significand % 2 = 0 }

/-- Whether a decimal lies in an interval. -/
def Interval.contains (i : Interval) (d : Nat) (e : Int) : Bool :=
  match compareDecimal d e i.low, compareDecimal d e i.high with
  | .gt, .lt => true
  | .eq, _ => i.closed
  | _, .eq => i.closed
  | _, _ => false

/-- The decimal exponent of a fraction: the place of its first digit. -/
def Ratio.magnitude (r : Ratio) : Int :=
  let guess : Int := (digits (r.num / r.den)).length - 1
  if r.den ≤ r.num then guess
  else
    let places := (List.range 330).find? fun k => r.den ≤ r.num * Nat.pow 10 (k + 1)
    Int.negSucc (places.getD 329)

/-- The better of the two neighbours of a number on a decimal grid, if one lies in the interval. -/
def gridHit (b : Binary) (e : Int) : Option (Nat × Int) :=
  let exact := Ratio.scaled b.significand b.exponent
  let i := b.interval
  let below := exact.floorAt e
  let above := below + 1
  let nearer :=
    match compareDecimal (2 * below + 1) e (Ratio.scaled (2 * b.significand) b.exponent) with
    | .gt => below
    | .lt => above
    | .eq => if below % 2 = 0 then below else above
  match i.contains below e, i.contains above e with
  | true, true => some (nearer, e)
  | true, false => some (below, e)
  | false, true => some (above, e)
  | false, false => none

/-- The shortest decimal `d * 10 ^ e` of a positive binary number. -/
def shortest (b : Binary) : Nat × Int :=
  let top := (Ratio.scaled b.significand b.exponent).magnitude
  ((List.range 17).findSome? fun (places : Nat) => gridHit b (top - places)).getD (0, 0)

/-- Float text. Positional while the first digit's place is from `-5` to `15`, always with a
point and a digit after it; otherwise one digit before the point and an exponent with its sign and
at least two digits. -/
def floatText (x : Float) : String :=
  let bits := x.toBits
  let sign := if 1 <<< 63 ≤ bits.toNat then ['-'] else []
  let b := Binary.ofBits bits
  let body :=
    if b.significand = 0 then ['0', '.', '0']
    else
      let (d, e) := shortest b
      let cs := (digits d).reverse.dropWhile (· = '0') |>.reverse
      let place : Int := e + (digits d).length - 1
      if -5 ≤ place ∧ place ≤ 15 then
        if place < 0 then
          ['0', '.'] ++ List.replicate (-place - 1).toNat '0' ++ cs
        else
          let whole := place.toNat + 1
          let front := cs.take whole ++ List.replicate (whole - cs.length) '0'
          let back := cs.drop whole
          front ++ ['.'] ++ (if back.isEmpty then ['0'] else back)
      else
        let back := cs.drop 1
        cs.take 1 ++ (if back.isEmpty then [] else '.' :: back) ++
          ['e', if place < 0 then '-' else '+'] ++ padded 2 place.natAbs
  String.ofList (sign ++ body)

end ConfigReplica.Decimal
