import ConfigReplica.Zstd.Literals

/-!
# The sequences of a compressed block

After its literals a compressed block holds sequences. Each copies some literals and then a match: a
stretch of earlier output, given by how far back it starts and how long it is. Lengths and distances
are coded by state tables with a few plain bits added; the three most recent distances have short
codes.
-/

namespace ConfigReplica.Zstd

/-- The three most recent distances, the latest first. -/
structure Distances where
  first : Nat := 1
  second : Nat := 4
  third : Nat := 8

/-- How one of the three numbers of a sequence is coded: the base and number of plain bits of each
code, the table used where the block brings none, and the finest table a block may bring. -/
structure NumberCode where
  ranges : Array (Nat × Nat)
  standard : StateTable
  maxAccuracy : Nat

/-- The tables in use, which a block may take over from the block before. -/
structure Tables where
  literals : Option PrefixTable := none
  copies : Option StateTable := none
  distances : Option StateTable := none
  lengths : Option StateTable := none
  recent : Distances := {}

/-- One step of a block: copy `copies` literals, then `length` bytes from `distance` back. -/
structure Sequence where
  copies : Nat
  length : Nat
  distance : Nat

namespace NumberCode

/-- Consecutive ranges: from `base` on, each code covers `2 ^ width` numbers. -/
def ranges.from (base : Nat) (widths : List Nat) : Array (Nat × Nat) :=
  (widths.foldl (fun (table, base) width => (table.push (base, width), base + (1 <<< width)))
    ((#[] : Array (Nat × Nat)), base)).1

/-- Numbers of literals. -/
def copies : NumberCode where
  ranges := NumberCode.ranges.from 0
    (List.replicate 16 0 ++ [1, 1, 1, 1, 2, 2, 3, 3, 4, 6, 7, 8, 9, 10, 11, 12, 13, 14, 15, 16])
  standard := StateTable.ofCounts 6
    [4, 3, 2, 2, 2, 2, 2, 2, 2, 2, 2, 2, 2, 1, 1, 1, 2, 2, 2, 2, 2, 2, 2, 2, 2, 3, 2, 1, 1, 1, 1, 1,
      -1, -1, -1, -1]
  maxAccuracy := 9

/-- Lengths of matches. -/
def lengths : NumberCode where
  ranges := NumberCode.ranges.from 3
    (List.replicate 32 0 ++
      [1, 1, 1, 1, 2, 2, 3, 3, 4, 4, 5, 7, 8, 9, 10, 11, 12, 13, 14, 15, 16])
  standard := StateTable.ofCounts 6
    ([1, 4, 3, 2, 2, 2, 2, 2, 2] ++ List.replicate 37 1 ++ List.replicate 7 (-1))
  maxAccuracy := 9

/-- Distances. Code `n` covers the numbers from `2 ^ n` on. -/
def distances : NumberCode where
  ranges := ((List.range 32).map fun width => (1 <<< width, width)).toArray
  standard := StateTable.ofCounts 5
    ([1, 1, 1, 1, 1, 1, 2, 2, 2] ++ List.replicate 15 1 ++ List.replicate 5 (-1))
  maxAccuracy := 8

/-- The number that a code and its plain bits stand for. -/
def number (code : NumberCode) (symbol : Nat) (bits : BackwardBits) : Nat × BackwardBits :=
  let (base, width) := code.ranges[symbol]?.getD (0, 0)
  let (extra, bits) := bits.take width
  (base + extra, bits)

/-- Reads the table of this code from the head of `src`, in one of four ways: the standard table,
one symbol only, a distribution, or the table of the block before. Gives the number of bytes used. -/
def readTable? (code : NumberCode) (mode : Nat) (previous : Option StateTable) (src : ByteArray) :
    Option (StateTable × Nat) := do
  match mode with
  | 0 => some (code.standard, 0)
  | 1 =>
    let symbol := (← src[0]?).toNat
    if code.ranges.size ≤ symbol then none
    some (StateTable.single symbol, 1)
  | 2 =>
    let (accuracy, counts, used) ← StateTable.readCounts? src code.maxAccuracy (code.ranges.size - 1)
    some (StateTable.ofCounts accuracy counts, used)
  | _ => previous.map (·, 0)

end NumberCode

namespace Distances

/-- The distance that a coded number stands for, and the recent distances after it. Numbers above
three are distances plus three; one to three name recent distances, shifted by one where the
sequence copies no literals. -/
def resolve (recent : Distances) (value copies : Nat) : Nat × Distances :=
  let push (distance : Nat) : Nat × Distances :=
    (distance, { first := distance, second := recent.first, third := recent.second })
  let swap (distance : Nat) : Nat × Distances :=
    (distance, { recent with first := distance, second := recent.first })
  if 3 < value then push (value - 3)
  else
    match value + (if copies = 0 then 1 else 0) with
    | 1 => (recent.first, recent)
    | 2 => swap recent.second
    | 3 => push recent.third
    | _ => push (recent.first - 1)

end Distances

/-- The three states of a sequence stream. -/
structure SequenceStates where
  copies : Nat
  distance : Nat
  length : Nat

/-- Reads `count` sequences; after each but the last the states move on. -/
def readSequences (copies distances lengths : StateTable) (count : Nat) (bits : BackwardBits)
    (states : SequenceStates) (recent : Distances) (done : Array Sequence) :
    Array Sequence × Distances × BackwardBits :=
  match count with
  | 0 => (done, recent, bits)
  | count + 1 =>
    let copyCell := copies.cell states.copies
    let distanceCell := distances.cell states.distance
    let lengthCell := lengths.cell states.length
    let (value, bits) := NumberCode.distances.number distanceCell.symbol bits
    let (length, bits) := NumberCode.lengths.number lengthCell.symbol bits
    let (copied, bits) := NumberCode.copies.number copyCell.symbol bits
    let (distance, recent) := recent.resolve value copied
    let done := done.push { copies := copied, length, distance }
    if count = 0 then (done, recent, bits)
    else
      let (a, bits) := bits.take copyCell.width
      let (b, bits) := bits.take lengthCell.width
      let (c, bits) := bits.take distanceCell.width
      let states :=
        { copies := copyCell.base + a, length := lengthCell.base + b, distance := distanceCell.base + c }
      readSequences copies distances lengths count bits states recent done

/-- The number of sequences at the head of `src`, and how many bytes it took. -/
def readSequenceCount? (src : ByteArray) : Option (Nat × Nat) := do
  let head := (← src[0]?).toNat
  if head < 128 then some (head, 1)
  else if head < 255 then some ((head - 128) * 256 + (← src[1]?).toNat, 2)
  else some ((← src[1]?).toNat + (← src[2]?).toNat * 256 + 0x7F00, 3)

/-- Reads the sequences of a block: what stands after its literals. -/
def readSequenceSection? (src : ByteArray) (tables : Tables) : Option (Array Sequence × Tables) := do
  let (count, pos) ← readSequenceCount? src
  if count = 0 then
    if pos = src.size then some (#[], tables) else none
  else
    let modes := (← src[pos]?).toNat
    if modes % 4 ≠ 0 then none
    let rest := src.extract (pos + 1) src.size
    let (copies, used) ← NumberCode.copies.readTable? (modes / 64) tables.copies rest
    let rest := rest.extract used rest.size
    let (distances, used) ← NumberCode.distances.readTable? (modes / 16 % 4) tables.distances rest
    let rest := rest.extract used rest.size
    let (lengths, used) ← NumberCode.lengths.readTable? (modes / 4 % 4) tables.lengths rest
    let bits ← BackwardBits.ofBytes? (rest.extract used rest.size)
    let (copyState, bits) := bits.take copies.accuracy
    let (distanceState, bits) := bits.take distances.accuracy
    let (lengthState, bits) := bits.take lengths.accuracy
    let states := { copies := copyState, distance := distanceState, length := lengthState }
    let (sequences, recent, bits) :=
      readSequences copies distances lengths count bits states tables.recent #[]
    if bits.isDone then
      some (sequences, { tables with
        copies := some copies, distances := some distances, lengths := some lengths, recent })
    else none

/-- Appends `length` bytes, each the one that stands `distance` back at that moment. -/
def copyBack (out : Array UInt8) (distance : Nat) : (length : Nat) → Array UInt8
  | 0 => out
  | length + 1 => copyBack (out.push (out[out.size - distance]?.getD 0)) distance length

/-- Appends the bytes of `src` from `start` to `stop`. -/
def copySpan (out : Array UInt8) (src : ByteArray) (start stop : Nat) : Array UInt8 :=
  (src.extract start stop).data.foldl Array.push out

/-- Carries out the sequences of a block, and appends the literals that are left over. No match may
start before the frame, nor may the block give more than `limit` bytes. -/
def runSequences? (sequences : List Sequence) (literals : ByteArray) (frameStart limit used : Nat)
    (out : Array UInt8) : Option (Array UInt8) :=
  match sequences with
  | [] =>
    if limit < out.size + (literals.size - used) then none
    else some (copySpan out literals used literals.size)
  | s :: rest =>
    if literals.size < used + s.copies ∨ limit < out.size + s.copies + s.length then none
    else
      let out := copySpan out literals used (used + s.copies)
      if s.distance = 0 ∨ out.size < frameStart + s.distance then none
      else runSequences? rest literals frameStart limit (used + s.copies)
        (copyBack out s.distance s.length)

/-- Appends what a compressed block stands for; `blockLimit` bounds its length. -/
def expandBlock? (src : ByteArray) (tables : Tables) (frameStart blockLimit : Nat)
    (out : Array UInt8) : Option (Array UInt8 × Tables) := do
  let literals ← Literals.read? src tables.literals
  let (sequences, tables) ← readSequenceSection? (src.extract literals.stop src.size)
    { tables with literals := literals.code }
  let out ← runSequences? sequences.toList literals.bytes frameStart (out.size + blockLimit) 0 out
  some (out, tables)

end ConfigReplica.Zstd
