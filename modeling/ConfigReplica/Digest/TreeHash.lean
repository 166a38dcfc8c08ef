import ConfigReplica.Bytes
import ConfigReplica.Words

/-!
# The tree hash of states

States are compared and shown by a hash of their encoding. The input is cut into chunks of 1024
bytes, each chunk is compressed block by block, and the results are joined in a binary tree whose
left part always holds the largest possible power of two of chunks. This is the hash named BLAKE3,
without a key and with 32 bytes of output (`hash`).
-/

namespace ConfigReplica.Digest.TreeHash

/-- The eight words that pass from one compression to the next. -/
abbrev Chain := Vector UInt32 8

/-- The chain that a chunk or a join starts with. -/
def start : Chain :=
  #v[0x6A09E667, 0xBB67AE85, 0x3C6EF372, 0xA54FF53A, 0x510E527F, 0x9B05688C, 0x1F83D9AB, 0x5BE0CD19]

/-- Rotation to the right. -/
def rotate (x : UInt32) (shift : UInt32) : UInt32 :=
  (x >>> shift) ||| (x <<< (32 - shift))

/-- Mixes two message words into four words of the table. -/
def mix (x y : UInt32) (q : Column) : Column :=
  let a := q.a + q.b + x
  let d := rotate (q.d ^^^ a) 16
  let c := q.c + d
  let b := rotate (q.b ^^^ c) 12
  let a := a + b + y
  let d := rotate (d ^^^ a) 8
  let c := c + d
  { a, b := rotate (b ^^^ c) 7, c, d }

/-- One round: the columns of the table take the first half of the message, its diagonals the
second. -/
def round (s m : Block) : Block :=
  let s := s.update 0 0 (mix m[0] m[1])
  let s := s.update 0 1 (mix m[2] m[3])
  let s := s.update 0 2 (mix m[4] m[5])
  let s := s.update 0 3 (mix m[6] m[7])
  let s := s.update 1 0 (mix m[8] m[9])
  let s := s.update 1 1 (mix m[10] m[11])
  let s := s.update 1 2 (mix m[12] m[13])
  s.update 1 3 (mix m[14] m[15])

/-- The order in which the next round takes the message words. -/
def permute (m : Block) : Block :=
  #v[m[2], m[6], m[3], m[10], m[7], m[0], m[4], m[13],
    m[1], m[11], m[12], m[5], m[9], m[14], m[15], m[8]]

/-- Seven rounds, with the message words permuted in between. -/
def rounds : (count : Nat) → (s m : Block) → Block
  | 0, s, _ => s
  | count + 1, s, m => rounds count (round s m) (permute m)

/-- What a compression is told besides its chain: the message, its length, the number of the chunk,
and what kind of step it is. -/
structure Step where
  chain : Chain
  message : Block
  counter : Nat
  length : Nat
  flags : UInt32

/-- The first block of a chunk. -/
def chunkStart : UInt32 := 1
/-- The last block of a chunk. -/
def chunkEnd : UInt32 := 2
/-- A join of two chains. -/
def join : UInt32 := 4
/-- The last step of all. -/
def root : UInt32 := 8

/-- The chain that a step gives. -/
def Step.run (step : Step) : Chain :=
  let chain := step.chain
  let low := UInt32.ofNat step.counter
  let high := UInt32.ofNat (step.counter >>> 32)
  let s : Block :=
    #v[chain[0], chain[1], chain[2], chain[3], chain[4], chain[5], chain[6], chain[7],
      start[0], start[1], start[2], start[3], low, high, UInt32.ofNat step.length, step.flags]
  let s := rounds 7 s step.message
  #v[s[0] ^^^ s[8], s[1] ^^^ s[9], s[2] ^^^ s[10], s[3] ^^^ s[11],
    s[4] ^^^ s[12], s[5] ^^^ s[13], s[6] ^^^ s[14], s[7] ^^^ s[15]]

/-- The words of up to 64 bytes, filled up with zeros. -/
def wordsOf (bytes : Bytes) : Block :=
  Vector.ofFn fun (i : Fin 16) =>
    UInt32.ofNat (Bytes.ofLittleEndian ((bytes.drop (4 * i.val)).take 4))

/-- The last step of a chunk; `flags` is `chunkStart` for its first block and zero afterwards. -/
def chunkStep (counter fuel : Nat) (chain : Chain) (flags : UInt32) (bytes : Bytes) : Step :=
  let step (last : UInt32) (block : Bytes) : Step :=
    { chain, message := wordsOf block, counter, length := block.length, flags := flags ||| last }
  match fuel with
  | 0 => step chunkEnd bytes
  | fuel + 1 =>
    let rest := bytes.drop 64
    if rest.isEmpty then step chunkEnd bytes
    else chunkStep counter fuel (step 0 (bytes.take 64)).run 0 rest

/-- The step that joins two chains. -/
def joinStep (left right : Chain) : Step :=
  { chain := start, message := (left ++ right).cast rfl, counter := 0, length := 64, flags := join }

/-- The last step of a tree of `chunks` chunks, of which the first has the number `counter`. -/
def treeStep (fuel counter chunks : Nat) (bytes : Bytes) : Step :=
  match fuel with
  | 0 => chunkStep counter 16 start chunkStart bytes
  | fuel + 1 =>
    if chunks ≤ 1 then chunkStep counter 16 start chunkStart bytes
    else
      let left := 1 <<< Nat.log2 (chunks - 1)
      joinStep (treeStep fuel counter left (bytes.take (1024 * left))).run
        (treeStep fuel (counter + left) (chunks - left) (bytes.drop (1024 * left))).run

/-- The hash of a byte string, 32 bytes. -/
def hash (bytes : Bytes) : Bytes :=
  let chunks := (bytes.length + 1023) / 1024
  let step := treeStep chunks 0 chunks bytes
  let chain := { step with flags := step.flags ||| root }.run
  chain.toList.flatMap fun word => Bytes.littleEndian 4 word.toNat

end ConfigReplica.Digest.TreeHash
