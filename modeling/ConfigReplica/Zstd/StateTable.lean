import ConfigReplica.Zstd.Bits

/-!
# State tables of finite-state entropy coding

A distribution gives each symbol a share of a table whose size is a power of two; a share of `-1`
stands for less than one cell. `StateTable.ofCounts` lays the symbols out in the order that every
encoder and decoder of the format uses, and `readCounts?` reads a distribution from the head of a
block.
-/

namespace ConfigReplica.Zstd

/-- One state: the symbol it stands for, and how the next state is found, as `base` plus the next
`width` bits of the stream. -/
structure StateCell where
  symbol : Nat
  width : Nat
  base : Nat
  deriving Inhabited

/-- A decoding table with `2 ^ accuracy` states. -/
structure StateTable where
  accuracy : Nat
  cells : Array StateCell

namespace StateTable

/-- The state with this number. -/
def cell (table : StateTable) (state : Nat) : StateCell :=
  table.cells[state]?.getD default

/-- The table that stands for one symbol without reading any bits. -/
def single (symbol : Nat) : StateTable :=
  { accuracy := 0, cells := #[{ symbol, width := 0, base := 0 }] }

/-- The symbols of positive share, each as often as its share. -/
def spreadSymbols (counts : List Int) : List Nat :=
  (counts.zipIdx.map fun (count, symbol) => List.replicate count.toNat symbol).flatten

/-- The symbols whose share is less than one cell; they fill the table from its end. -/
def rareSymbols (counts : List Int) : List Nat :=
  counts.zipIdx.filterMap fun (count, symbol) => if count = -1 then some symbol else none

/-- The cells in the order in which spread symbols take them: steps of a fixed odd length around
the table, leaving out the `rare` last cells. -/
def spreadOrder (accuracy rare : Nat) : List Nat :=
  let size := 1 <<< accuracy
  let step := size / 2 + size / 8 + 3
  ((List.range size).map fun k => k * step % size).filter (· < size - rare)

/-- Which symbol each state stands for. -/
def layout (accuracy : Nat) (counts : List Int) : Array Nat :=
  let size := 1 <<< accuracy
  let rare := rareSymbols counts
  let spread := (spreadOrder accuracy rare.length).zip (spreadSymbols counts)
  let placed := spread.foldl (fun cells (pos, symbol) => cells.setIfInBounds pos symbol)
    (Array.replicate size 0)
  rare.zipIdx.foldl (fun cells (symbol, k) => cells.setIfInBounds (size - 1 - k) symbol) placed

/-- Numbers the states: the `n`-th state of a symbol with `c` states leads to state number `c + n`
of a table twice as fine, of which the top bit is implied. -/
def number (accuracy : Nat) (counts : List Int) (symbols : Array Nat) : Array StateCell :=
  let start : Array Nat := (counts.map fun count => if count = -1 then 1 else count.toNat).toArray
  (symbols.foldl (fun (cells, next) symbol =>
      let state := next[symbol]?.getD 1
      let width := accuracy - Nat.log2 state
      (cells.push { symbol, width, base := (state <<< width) - (1 <<< accuracy) },
        next.setIfInBounds symbol (state + 1)))
    ((#[] : Array StateCell), start)).1

/-- The table of a distribution. -/
def ofCounts (accuracy : Nat) (counts : List Int) : StateTable :=
  { accuracy, cells := number accuracy counts (layout accuracy counts) }

/-- Zero runs. After a share of zero, two-bit groups count further zeros; a group of three is
followed by another group. Gives the number of zeros and the bit position after the groups. -/
def zeroRun (src : ByteArray) (fuel pos : Nat) : Nat × Nat :=
  match fuel with
  | 0 => (0, pos)
  | fuel + 1 =>
    let run := bitsAt src pos 2
    if run = 3 then
      let (more, stop) := zeroRun src fuel (pos + 2)
      (run + more, stop)
    else (run, pos + 2)

/-- The shares from bit `pos` on, while `remaining` cells are to be given out and fewer than 256
symbols were read. A share takes as few bits as its greatest possible value allows. -/
def readShares (src : ByteArray) (fuel remaining pos : Nat) (counts : Array Int) :
    Option (Array Int × Nat) :=
  match fuel with
  | 0 => none
  | fuel + 1 =>
    if remaining = 0 then some (counts, pos)
    else
      let width := Nat.log2 (remaining + 1) + 1
      let value := bitsAt src pos width
      let half := 1 <<< (width - 1)
      let short := (1 <<< width) - 1 - (remaining + 1)
      let (value, pos) :=
        if value % half < short then (value % half, pos + width - 1)
        else if half ≤ value then (value - short, pos + width)
        else (value, pos + width)
      let count : Int := value - 1
      if remaining < count.natAbs then none
      else if count = 0 then
        let (zeros, pos) := zeroRun src (8 * src.size) pos
        readShares src fuel remaining pos (counts.push 0 ++ Array.replicate zeros 0)
      else readShares src fuel (remaining - count.natAbs) pos (counts.push count)

/-- Reads a distribution from the head of `src`: its accuracy, the shares, and how many bytes it
took. At most `maxSymbol + 1` symbols may have a share, and the table may be no finer than
`maxAccuracy`. -/
def readCounts? (src : ByteArray) (maxAccuracy maxSymbol : Nat) :
    Option (Nat × List Int × Nat) := do
  let accuracy := bitsAt src 0 4 + 5
  if maxAccuracy < accuracy then none
  let (counts, stop) ← readShares src 257 (1 <<< accuracy) 4 #[]
  let used := (stop + 7) / 8
  if src.size < used ∨ maxSymbol + 1 < counts.size then none
  some (accuracy, counts.toList, used)

end StateTable

end ConfigReplica.Zstd
