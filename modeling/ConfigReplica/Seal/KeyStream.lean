import ConfigReplica.Bytes
import ConfigReplica.Words

/-!
# The key stream of sealed messages

A stream of bytes that depends on a key of 32 bytes and a nonce of 12, in numbered blocks of 64 bytes
(ChaCha20). A message is hidden by combining it with the stream byte by byte (`cover`), which is its
own inverse (`cover_cover`).
-/

namespace ConfigReplica.Seal.KeyStream

/-- Rotation to the left. -/
def rotate (x : UInt32) (shift : UInt32) : UInt32 :=
  (x <<< shift) ||| (x >>> (32 - shift))

/-- Mixes four words. -/
def quarter (q : Column) : Column :=
  let a := q.a + q.b
  let d := rotate (q.d ^^^ a) 16
  let c := q.c + d
  let b := rotate (q.b ^^^ c) 12
  let a := a + b
  let d := rotate (d ^^^ a) 8
  let c := c + d
  { a, b := rotate (b ^^^ c) 7, c, d }

/-- Mixes every column, or every diagonal if `shift` is one. -/
def round (shift : Nat) (s : Block) : Block :=
  (List.range 4).foldl (fun s column => s.update shift column quarter) s

/-- Two rounds: the columns, then the diagonals. -/
def doubleRound (s : Block) : Block :=
  round 1 (round 0 s)

/-- `count` double rounds. -/
def rounds : (count : Nat) → Block → Block
  | 0, s => s
  | count + 1, s => rounds count (doubleRound s)

/-- The word at place `i` of a byte string. -/
def wordAt (bytes : Bytes) (i : Nat) : UInt32 :=
  UInt32.ofNat (Bytes.ofLittleEndian ((bytes.drop (4 * i)).take 4))

/-- The block with this number. -/
def block (key nonce : Bytes) (number : Nat) : Bytes :=
  let k := wordAt key
  let s : Block :=
    #v[0x61707865, 0x3320646e, 0x79622d32, 0x6b206574, k 0, k 1, k 2, k 3, k 4, k 5, k 6, k 7,
      UInt32.ofNat number, wordAt nonce 0, wordAt nonce 1, wordAt nonce 2]
  let t := rounds 10 s
  (s.zipWith (· + ·) t).toList.flatMap fun word => Bytes.littleEndian 4 word.toNat

/-- Block after block, from `number` on. -/
def blocks (key nonce : Bytes) (number : Nat) : (count : Nat) → Bytes
  | 0 => []
  | count + 1 => block key nonce number ++ blocks key nonce (number + 1) count

/-- Combines a message with a stream, as far as both go. -/
def combine (message stream : Bytes) : Bytes :=
  List.zipWith (· ^^^ ·) message stream

/-- A message combined with the stream from block 1 on. -/
def cover (key nonce message : Bytes) : Bytes :=
  combine message (blocks key nonce 1 ((message.length + 63) / 64))

/-- Words of four bytes each. -/
theorem length_flatMap_word (words : List UInt32) :
    (words.flatMap fun word => Bytes.littleEndian 4 word.toNat).length = 4 * words.length := by
  induction words with
  | nil => rfl
  | cons word words ih => simp [ih]; omega

@[simp] theorem length_block (key nonce : Bytes) (number : Nat) :
    (block key nonce number).length = 64 := by
  simp only [block, length_flatMap_word, Vector.length_toList]

@[simp] theorem length_blocks (key nonce : Bytes) (number count : Nat) :
    (blocks key nonce number count).length = 64 * count := by
  induction count generalizing number with
  | zero => rfl
  | succ count ih => simp [blocks, ih]; omega

@[simp] theorem length_cover (key nonce message : Bytes) :
    (cover key nonce message).length = message.length := by
  simp [cover, combine]; omega

/-- Combining twice with one stream gives the message back. -/
theorem combine_combine (message stream : Bytes) (h : message.length ≤ stream.length) :
    combine (combine message stream) stream = message := by
  induction message generalizing stream with
  | nil => simp [combine]
  | cons m message ih =>
    cases stream with
    | nil => simp at h
    | cons s stream =>
      have tail := ih stream (by simpa using h)
      simp only [combine] at tail
      simp only [combine, List.zipWith_cons_cons, tail, UInt8.xor_assoc, UInt8.xor_self, UInt8.xor_zero]

/-- Covering twice gives the message back. -/
@[simp] theorem cover_cover (key nonce message : Bytes) :
    cover key nonce (cover key nonce message) = message := by
  unfold cover
  rw [show (combine message (blocks key nonce 1 ((message.length + 63) / 64))).length
    = message.length from length_cover key nonce message]
  exact combine_combine _ _ (by rw [length_blocks]; omega)

end ConfigReplica.Seal.KeyStream
