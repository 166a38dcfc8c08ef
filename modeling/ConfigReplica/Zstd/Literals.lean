import ConfigReplica.Zstd.PrefixTable

/-!
# The literals of a compressed block

A compressed block opens with its literals: bytes that the block's sequences copy to the output in
order. They are stored as they are, as one repeated byte, or under a prefix code, which is either
described here or taken over from the block before.
-/

namespace ConfigReplica.Zstd

/-- The literals of one block, the prefix code for the next block to take over, and where in the
block its sequences begin. -/
structure Literals where
  bytes : ByteArray
  code : Option PrefixTable
  stop : Nat

namespace Literals

/-- The greatest number of bytes that one block may give. -/
def maxBlock : Nat := 128 * 1024

/-- The number in bytes `start` to `stop` of the block, lowest byte first. -/
def field (src : ByteArray) (start stop : Nat) : Nat :=
  window src start (stop - start)

/-- Sizes of stored literals: header length and number of literals. -/
def storedSizes (src : ByteArray) (format : Nat) : Nat × Nat :=
  match format with
  | 1 => (2, field src 0 2 / 16)
  | 3 => (3, field src 0 3 / 16)
  | _ => (1, field src 0 1 / 8)

/-- Sizes of coded literals: header length, number of literals, coded length, and whether the code
is split into four streams. -/
def codedSizes (src : ByteArray) (format : Nat) : Nat × Nat × Nat × Bool :=
  let split (header width : Nat) (four : Bool) :=
    let value := field src 0 header / 16
    (header, value % (1 <<< width), (value >>> width) % (1 <<< width), four)
  match format with
  | 0 => split 3 10 false
  | 1 => split 3 10 true
  | 2 => split 4 14 true
  | _ => split 5 18 true

/-- Decodes four streams: a table of three lengths, then the streams; each but the last gives a
quarter of the literals, rounded up. -/
def decodeFour? (table : PrefixTable) (count : Nat) (src : ByteArray) : Option ByteArray := do
  if src.size < 10 ∨ count < 6 then none
  let first := 6 + field src 0 2
  let second := first + field src 2 4
  let third := second + field src 4 6
  let quarter := (count + 3) / 4
  if src.size < third ∨ count < 3 * quarter then none
  let out ← table.decode? quarter (src.extract 6 first) (ByteArray.emptyWithCapacity count)
  let out ← table.decode? quarter (src.extract first second) out
  let out ← table.decode? quarter (src.extract second third) out
  table.decode? (count - 3 * quarter) (src.extract third src.size) out

/-- Reads the literals at the head of a block. -/
def read? (src : ByteArray) (previous : Option PrefixTable) : Option Literals := do
  let head := (← src[0]?).toNat
  let format := head / 4 % 4
  match head % 4 with
  | 0 =>
    let (header, count) := storedSizes src format
    if maxBlock < count ∨ src.size < header + count then none
    some { bytes := src.extract header (header + count), code := previous, stop := header + count }
  | 1 =>
    let (header, count) := storedSizes src format
    if maxBlock < count ∨ src.size < header + 1 then none
    let byte := src[header]?.getD 0
    some { bytes := ⟨Array.replicate count byte⟩, code := previous, stop := header + 1 }
  | kind =>
    let (header, count, coded, four) := codedSizes src format
    if maxBlock < count ∨ src.size < header + coded then none
    let body := src.extract header (header + coded)
    let (table, used) ← if kind = 2 then PrefixTable.read? body else previous.map (·, 0)
    let streams := body.extract used body.size
    let bytes ←
      if four then decodeFour? table count streams
      else table.decode? count streams (ByteArray.emptyWithCapacity count)
    some { bytes, code := some table, stop := header + coded }

end Literals

end ConfigReplica.Zstd
