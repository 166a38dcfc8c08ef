import ConfigReplica.Bytes

/-!
# SHA-256

The hash function from which sealing keys are derived (`hash`): the message is padded to whole blocks
of 64 bytes, and each block is expanded to 64 words and mixed into a state of eight.
-/

namespace ConfigReplica.Digest.Sha256

/-- The state between two blocks. -/
structure State where
  a : UInt32
  b : UInt32
  c : UInt32
  d : UInt32
  e : UInt32
  f : UInt32
  g : UInt32
  h : UInt32

/-- The state before the first block. -/
def State.start : State :=
  { a := 0x6a09e667, b := 0xbb67ae85, c := 0x3c6ef372, d := 0xa54ff53a
    e := 0x510e527f, f := 0x9b05688c, g := 0x1f83d9ab, h := 0x5be0cd19 }

/-- The constants of the 64 rounds. -/
def constants : List UInt32 := [
  0x428a2f98, 0x71374491, 0xb5c0fbcf, 0xe9b5dba5, 0x3956c25b, 0x59f111f1, 0x923f82a4, 0xab1c5ed5,
  0xd807aa98, 0x12835b01, 0x243185be, 0x550c7dc3, 0x72be5d74, 0x80deb1fe, 0x9bdc06a7, 0xc19bf174,
  0xe49b69c1, 0xefbe4786, 0x0fc19dc6, 0x240ca1cc, 0x2de92c6f, 0x4a7484aa, 0x5cb0a9dc, 0x76f988da,
  0x983e5152, 0xa831c66d, 0xb00327c8, 0xbf597fc7, 0xc6e00bf3, 0xd5a79147, 0x06ca6351, 0x14292967,
  0x27b70a85, 0x2e1b2138, 0x4d2c6dfc, 0x53380d13, 0x650a7354, 0x766a0abb, 0x81c2c92e, 0x92722c85,
  0xa2bfe8a1, 0xa81a664b, 0xc24b8b70, 0xc76c51a3, 0xd192e819, 0xd6990624, 0xf40e3585, 0x106aa070,
  0x19a4c116, 0x1e376c08, 0x2748774c, 0x34b0bcb5, 0x391c0cb3, 0x4ed8aa4a, 0x5b9cca4f, 0x682e6ff3,
  0x748f82ee, 0x78a5636f, 0x84c87814, 0x8cc70208, 0x90befffa, 0xa4506ceb, 0xbef9a3f7, 0xc67178f2]

/-- Rotation to the right. -/
def rotate (x : UInt32) (shift : UInt32) : UInt32 :=
  (x >>> shift) ||| (x <<< (32 - shift))

/-- The bytes of a number, highest first. -/
def bigEndian (count value : Nat) : Bytes :=
  (Bytes.littleEndian count value).reverse

/-- The message, a set bit, zeros up to eight bytes before a whole block, and the length in bits. -/
def pad (bytes : Bytes) : Bytes :=
  let zeros := (119 - bytes.length % 64) % 64
  bytes ++ 0x80 :: (List.replicate zeros 0 ++ bigEndian 8 (8 * bytes.length))

/-- The words of a block. -/
def wordsOf (block : Bytes) : Array UInt32 :=
  Array.ofFn fun (i : Fin 16) =>
    UInt32.ofNat (Bytes.ofLittleEndian ((block.drop (4 * i.val)).take 4).reverse)

/-- Extends the sixteen words of a block by `count` more. -/
def expand : (count : Nat) → Array UInt32 → Array UInt32
  | 0, words => words
  | count + 1, words =>
    let back (n : Nat) : UInt32 := words[words.size - n]?.getD 0
    let x := back 15
    let y := back 2
    let s0 := rotate x 7 ^^^ rotate x 18 ^^^ (x >>> 3)
    let s1 := rotate y 17 ^^^ rotate y 19 ^^^ (y >>> 10)
    expand count (words.push (back 16 + s0 + back 7 + s1))

/-- One round with its constant and word. -/
def State.round (s : State) (k w : UInt32) : State :=
  let s1 := rotate s.e 6 ^^^ rotate s.e 11 ^^^ rotate s.e 25
  let choice := (s.e &&& s.f) ^^^ (~~~s.e &&& s.g)
  let t1 := s.h + s1 + choice + k + w
  let s0 := rotate s.a 2 ^^^ rotate s.a 13 ^^^ rotate s.a 22
  let majority := (s.a &&& s.b) ^^^ (s.a &&& s.c) ^^^ (s.b &&& s.c)
  { a := t1 + (s0 + majority), b := s.a, c := s.b, d := s.c, e := s.d + t1, f := s.e, g := s.f
    h := s.g }

/-- Takes in one block. -/
def State.absorb (s : State) (block : Bytes) : State :=
  let words := (expand 48 (wordsOf block)).toList
  let t := (constants.zip words).foldl (fun t (k, w) => t.round k w) s
  { a := s.a + t.a, b := s.b + t.b, c := s.c + t.c, d := s.d + t.d
    e := s.e + t.e, f := s.f + t.f, g := s.g + t.g, h := s.h + t.h }

/-- Takes in `count` blocks. -/
def State.absorbAll (s : State) : (count : Nat) → Bytes → State
  | 0, _ => s
  | count + 1, bytes => (s.absorb (bytes.take 64)).absorbAll count (bytes.drop 64)

/-- The hash of a byte string, 32 bytes. -/
def hash (bytes : Bytes) : Bytes :=
  let message := pad bytes
  let s := State.start.absorbAll (message.length / 64) message
  [s.a, s.b, s.c, s.d, s.e, s.f, s.g, s.h].flatMap fun word => bigEndian 4 word.toNat

/-- The keyed hash (HMAC) of a message. -/
def keyed (key message : Bytes) : Bytes :=
  let key := if 64 < key.length then hash key else key
  let key := key ++ List.replicate (64 - key.length) 0
  hash (key.map (· ^^^ 0x5C) ++ hash (key.map (· ^^^ 0x36) ++ message))

/-- A key of 32 bytes drawn from a secret for one purpose (HKDF): the secret is first condensed under
`salt`, then expanded for `purpose`. -/
def deriveKey (salt secret purpose : Bytes) : Bytes :=
  keyed (keyed salt secret) (purpose ++ [1])

end ConfigReplica.Digest.Sha256
