import ConfigReplica.Zstd.StateTable

/-!
# Prefix codes of literals

Literals are coded by a prefix code that is described by one weight per symbol: a symbol of weight
`w > 0` takes `2 ^ (w - 1)` cells of the decoding table, and weight zero leaves it out. The table is
filled in order of weight, and of symbol within a weight. The weight of the last symbol is not
written; it is what makes the table's size a power of two.
-/

namespace ConfigReplica.Zstd

/-- A decoding table of `2 ^ depth` cells, indexed by the next `depth` bits of the stream; a cell
holds a symbol and the length of its code. -/
structure PrefixTable where
  depth : Nat
  cells : Array (UInt8 × Nat)

namespace PrefixTable

/-- The longest code that is accepted. -/
def maxDepth : Nat := 12

/-- The share of the table that a weight stands for. -/
def share (weight : Nat) : Nat :=
  (1 <<< weight) / 2

/-- The table of these weights, of which the last is implied. There must be some weight, the rest
up to the next power of two must itself be a power of two, and the codes of full length come in
pairs, at least one of them. -/
def ofWeights? (weights : List Nat) : Option PrefixTable := do
  let total := weights.foldl (fun total weight => total + share weight) 0
  if total = 0 ∨ weights.any (maxDepth < ·) ∨ 255 < weights.length then none
  let depth := Nat.log2 total + 1
  let rest := (1 <<< depth) - total
  let last := Nat.log2 rest
  if maxDepth < depth ∨ rest ≠ 1 <<< last then none
  let weights := weights ++ [last + 1]
  let deepest := weights.count 1
  if deepest < 2 ∨ deepest % 2 = 1 then none
  let cellsOf (weight : Nat) : List (UInt8 × Nat) :=
    (weights.zipIdx.filter (·.1 = weight)).flatMap fun (_, symbol) =>
      List.replicate (share weight) (UInt8.ofNat symbol, depth + 1 - weight)
  let cells := (List.range depth).flatMap fun w => cellsOf (w + 1)
  some { depth, cells := cells.toArray }

/-- Weights written plainly, two to a byte, the first in the high half. -/
def plainWeights (src : ByteArray) (count : Nat) : List Nat :=
  (List.range count).map fun k =>
    let pair := (src[k / 2]?.getD 0).toNat
    if k % 2 = 0 then pair / 16 else pair % 16

/-- Weights coded with a state table: two states take turns, and the stream ends when a state
cannot be renewed; the other state then gives the last weight. -/
def codedWeights (table : StateTable) (fuel : Nat) (bits : BackwardBits) (mine other : Nat)
    (weights : Array Nat) : Option (Array Nat) :=
  match fuel with
  | 0 => none
  | fuel + 1 =>
    let cell := table.cell mine
    let weights := weights.push cell.symbol
    let (more, bits) := bits.take cell.width
    if bits.isOverread then some (weights.push (table.cell other).symbol)
    else codedWeights table fuel bits other (cell.base + more) weights

/-- Reads the description of a prefix code from the head of `src`: the table, and how many bytes
the description took. -/
def read? (src : ByteArray) : Option (PrefixTable × Nat) := do
  let head := (← src[0]?).toNat
  if 128 ≤ head then
    let count := head - 127
    let used := 1 + (count + 1) / 2
    if src.size < used then none
    let table ← ofWeights? (plainWeights (src.extract 1 used) count)
    some (table, used)
  else
    let used := 1 + head
    if src.size < used then none
    let body := src.extract 1 used
    let (accuracy, counts, skipped) ← StateTable.readCounts? body 6 255
    let table := StateTable.ofCounts accuracy counts
    let bits ← BackwardBits.ofBytes? (body.extract skipped body.size)
    let (first, bits) := bits.take accuracy
    let (second, bits) := bits.take accuracy
    if bits.isOverread then none
    let weights ← codedWeights table 255 bits first second #[]
    let table ← ofWeights? weights.toList
    some (table, used)

/-- Decodes `count` symbols, appending them to `out`. -/
def decodeSymbols (table : PrefixTable) (count : Nat) (bits : BackwardBits) (out : ByteArray) :
    ByteArray × BackwardBits :=
  match count with
  | 0 => (out, bits)
  | count + 1 =>
    let (symbol, width) := table.cells[bits.peek table.depth]?.getD (0, 0)
    decodeSymbols table count (bits.skip width) (out.push symbol)

/-- Decodes a stream that holds exactly `count` symbols. -/
def decode? (table : PrefixTable) (count : Nat) (src out : ByteArray) : Option ByteArray := do
  let bits ← BackwardBits.ofBytes? src
  let (out, bits) := decodeSymbols table count bits out
  if bits.isDone then some out else none

end PrefixTable

end ConfigReplica.Zstd
