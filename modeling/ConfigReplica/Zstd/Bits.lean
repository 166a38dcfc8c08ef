import ConfigReplica.Bytes

/-!
# Bits of a compressed block

The entropy-coded parts of a block are read bit by bit, in two directions: table descriptions from
the first bit onward (`bitsAt`), coded streams from the last set bit backward (`BackwardBits`).
Bits outside the block count as zero; the readers of a complete part check afterwards that exactly
the bits of the part were used.
-/

namespace ConfigReplica.Zstd

/-- The number held by `span` bytes from position `first`, lowest byte first. -/
def window (src : ByteArray) (first : Nat) : (span : Nat) → Nat
  | 0 => 0
  | span + 1 => (src[first]?.getD 0).toNat + 256 * window src (first + 1) span

/-- The `count` bits that start at bit `start`, lowest bit first. -/
def bitsAt (src : ByteArray) (start count : Nat) : Nat :=
  let offset := start % 8
  (window src (start / 8) ((offset + count + 7) / 8) >>> offset) % (1 <<< count)

/-- A stream of bits read from its end. `left` counts the bits that are still to be read and falls
below zero once more bits were asked for than there are. -/
structure BackwardBits where
  src : ByteArray
  left : Int

namespace BackwardBits

/-- The stream in `src`: it ends below the highest set bit of the last byte, which must exist. -/
def ofBytes? (src : ByteArray) : Option BackwardBits :=
  let last := (src[src.size - 1]?.getD 0).toNat
  if last = 0 then none
  else some { src, left := 8 * (src.size - 1) + Nat.log2 last }

/-- The next `count` bits without passing over them; bits before the start are zero. -/
def peek (bits : BackwardBits) (count : Nat) : Nat :=
  let low := bits.left - count
  if 0 ≤ low then bitsAt bits.src low.toNat count
  else bitsAt bits.src 0 bits.left.toNat <<< (count - bits.left.toNat)

/-- Passes over `count` bits. -/
def skip (bits : BackwardBits) (count : Nat) : BackwardBits :=
  { bits with left := bits.left - count }

/-- The next `count` bits, and the stream after them. -/
def take (bits : BackwardBits) (count : Nat) : Nat × BackwardBits :=
  (bits.peek count, bits.skip count)

/-- Whether exactly the bits of the stream were read. -/
def isDone (bits : BackwardBits) : Bool :=
  bits.left == 0

/-- Whether more bits were asked for than there are. -/
def isOverread (bits : BackwardBits) : Bool :=
  bits.left < 0

end BackwardBits

end ConfigReplica.Zstd
