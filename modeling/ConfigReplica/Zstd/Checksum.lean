import ConfigReplica.Bytes

/-!
# Content checksums of compressed frames

A frame may end with the lowest 32 bits of a 64-bit hash of its content. The hash runs four lanes
over stripes of 32 bytes, joins them, and then takes in what is left in steps of eight, four and
one bytes (`hash64`).
-/

namespace ConfigReplica.Zstd.Checksum

/-- The five primes of the hash. -/
def prime1 : UInt64 := 0x9E3779B185EBCA87
/-- The second prime. -/
def prime2 : UInt64 := 0xC2B2AE3D27D4EB4F
/-- The third prime. -/
def prime3 : UInt64 := 0x165667B19E3779F9
/-- The fourth prime. -/
def prime4 : UInt64 := 0x85EBCA77C2B2AE63
/-- The fifth prime. -/
def prime5 : UInt64 := 0x27D4EB2F165667C5

/-- Rotation to the left. -/
def rotate (x : UInt64) (shift : UInt64) : UInt64 :=
  (x <<< shift) ||| (x >>> (64 - shift))

/-- The word in the first bytes of `src`, at most `width` of them, lowest first. -/
def word (width : Nat) (src : Bytes) : UInt64 :=
  UInt64.ofNat (Bytes.ofLittleEndian (src.take width))

/-- One step of a lane. -/
def round (lane input : UInt64) : UInt64 :=
  rotate (lane + input * prime2) 31 * prime1

/-- The four lanes. -/
structure Lanes where
  a : UInt64 := prime1 + prime2
  b : UInt64 := prime2
  c : UInt64 := 0
  d : UInt64 := 0 - prime1

/-- Runs the lanes over `count` stripes. -/
def Lanes.run (lanes : Lanes) (count : Nat) (src : Bytes) : Lanes :=
  match count with
  | 0 => lanes
  | count + 1 =>
    let lanes : Lanes :=
      { a := round lanes.a (word 8 src)
        b := round lanes.b (word 8 (src.drop 8))
        c := round lanes.c (word 8 (src.drop 16))
        d := round lanes.d (word 8 (src.drop 24)) }
    lanes.run count (src.drop 32)

/-- Joins the lanes to one word. -/
def Lanes.join (lanes : Lanes) : UInt64 :=
  let sum := rotate lanes.a 1 + rotate lanes.b 7 + rotate lanes.c 12 + rotate lanes.d 18
  [lanes.a, lanes.b, lanes.c, lanes.d].foldl
    (fun sum lane => (sum ^^^ round 0 lane) * prime1 + prime4) sum

/-- Takes in `count` words of eight bytes. -/
def takeLong (sum : UInt64) (count : Nat) (src : Bytes) : UInt64 :=
  match count with
  | 0 => sum
  | count + 1 =>
    takeLong (rotate (sum ^^^ round 0 (word 8 src)) 27 * prime1 + prime4) count (src.drop 8)

/-- Takes in four bytes, where there are as many, and then the rest one by one. -/
def takeShort (sum : UInt64) (src : Bytes) : UInt64 :=
  let (sum, src) :=
    if 4 ≤ src.length then
      (rotate (sum ^^^ word 4 src * prime1) 23 * prime2 + prime3, src.drop 4)
    else (sum, src)
  src.foldl (fun sum b => rotate (sum ^^^ b.toUInt64 * prime5) 11 * prime1) sum

/-- The final mixing. -/
def avalanche (sum : UInt64) : UInt64 :=
  let sum := (sum ^^^ (sum >>> 33)) * prime2
  let sum := (sum ^^^ (sum >>> 29)) * prime3
  sum ^^^ (sum >>> 32)

/-- The 64-bit hash of a byte string. -/
def hash64 (src : Bytes) : UInt64 :=
  let size := src.length
  let stripes := size / 32
  let start := if stripes = 0 then prime5 else (Lanes.run {} stripes src).join
  let tail := src.drop (32 * stripes)
  let words := size % 32 / 8
  avalanche (takeShort (takeLong (start + UInt64.ofNat size) words tail) (tail.drop (8 * words)))

/-- What a frame stores: the lowest 32 bits of the hash. -/
def stored (src : Bytes) : Nat :=
  (hash64 src).toUInt32.toNat

end ConfigReplica.Zstd.Checksum
