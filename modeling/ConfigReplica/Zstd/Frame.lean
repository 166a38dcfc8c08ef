import ConfigReplica.Zstd.Checksum
import ConfigReplica.Zstd.Sequences

/-!
# Compressed frames

A compressed text is a series of frames, each a header and blocks that are stored, repeated bytes,
or compressed; frames of a reserved kind are passed over. `decompress` reads any such text up to a
limit on its content, and `compress` writes one frame of stored and repeated blocks.

A frame that says it is short (`FrameHeader.isShort`) is read as a whole. Other frames are read block
by block, and that is laxer in one respect and stricter in another: a block without bytes is passed
over, also one that claims to be compressed, and at the end of a frame it goes unnoticed that the
content has another size than was said; but the window may not be as large.
-/

namespace ConfigReplica.Zstd

/-- Why a compressed text is not accepted. -/
inductive Fault where
  /-- It is not a series of complete, consistent frames. -/
  | malformed
  /-- Its content is longer than the limit. -/
  | oversize (limit : Nat)
  deriving DecidableEq, Repr

/-- How a frame begins. -/
def magic : Bytes := [0x28, 0xB5, 0x2F, 0xFD]

/-- What the header of a frame says. -/
structure FrameHeader where
  window : Nat
  contentSize : Option Nat
  checked : Bool
  deriving DecidableEq, Repr

/-- Whether the content has a known size of at most 32 bytes. -/
def FrameHeader.isShort (header : FrameHeader) : Bool :=
  header.contentSize.any (· ≤ 32)

/-- The largest window that a frame may ask for, which is the distance to earlier output. -/
def FrameHeader.maxWindow (header : FrameHeader) : Nat :=
  if header.isShort then (1 <<< 32) - 1 else 1 <<< 27

/-- The first `count` bytes and the rest, if there are as many. -/
def split? (count : Nat) (src : Bytes) : Option (Bytes × Bytes) :=
  let front := src.take count
  if front.length = count then some (front, src.drop count) else none

/-- The number in the first `count` bytes, lowest first, and the rest. -/
def number? (count : Nat) (src : Bytes) : Option (Nat × Bytes) := do
  let (front, rest) ← split? count src
  some (Bytes.ofLittleEndian front, rest)

/-- The content size of a frame, whose field has a width given by a code; the field of two bytes
counts from 256. -/
def contentSize? (code : Nat) (single : Bool) (src : Bytes) : Option (Option Nat × Bytes) :=
  match code, single with
  | 0, false => some (none, src)
  | 0, true => (number? 1 src).map fun (size, rest) => (some size, rest)
  | 1, _ => (number? 2 src).map fun (size, rest) => (some (size + 256), rest)
  | 2, _ => (number? 4 src).map fun (size, rest) => (some size, rest)
  | _, _ => (number? 8 src).map fun (size, rest) => (some size, rest)

/-- The window that a window byte stands for: a power of two and eighths of it. -/
def windowOf (byte : Nat) : Nat :=
  let base := 1 <<< (10 + byte / 8)
  base + base / 8 * (byte % 8)

/-- Reads a frame header after the magic number. No dictionaries are known, so a frame that names
one cannot be read; nor can one whose window is too large. -/
def readHeader? (src : Bytes) : Option (FrameHeader × Bytes) := do
  let (descriptor, src) ← number? 1 src
  if descriptor / 8 % 2 = 1 then none
  let single := descriptor / 32 % 2 = 1
  let (window, src) ← if single then some (0, src) else
    (number? 1 src).map fun (byte, rest) => (windowOf byte, rest)
  let (dictionary, src) ← number? ([0, 1, 2, 4][descriptor % 4]?.getD 0) src
  let (contentSize, src) ← contentSize? (descriptor / 64) single src
  let window := if single then contentSize.getD 0 else window
  let header : FrameHeader := { window, contentSize, checked := descriptor / 4 % 2 = 1 }
  if dictionary ≠ 0 ∨ header.maxWindow < window then none
  some (header, src)

/-- Appends `count` copies of a byte. -/
def pushRun (out : Array UInt8) (byte : UInt8) : (count : Nat) → Array UInt8
  | 0 => out
  | count + 1 => pushRun (out.push byte) byte count

/-- What the blocks of a frame have in common: how long they may be, where the content of the frame
starts, and whether the frame is short. -/
structure BlockContext where
  limit : Nat
  frameStart : Nat
  isShort : Bool

/-- Whether a block has nothing but its header. -/
def isBare (kind size : Nat) : Bool :=
  size = 0 ∧ kind ≠ 1

/-- Appends the content of one block, which is given by its kind, its size field and what follows
its header; gives also what follows the block. -/
def readBlock? (context : BlockContext) (kind size : Nat) (tables : Tables) (src : Bytes)
    (out : Array UInt8) : Option (Array UInt8 × Tables × Bytes) := do
  if context.limit < size then none
  match kind with
  | 0 =>
    let (front, rest) ← split? size src
    some (front.foldl Array.push out, tables, rest)
  | 1 =>
    let (front, rest) ← split? 1 src
    some (pushRun out (front.headD 0) size, tables, rest)
  | 2 =>
    if size = 0 ∧ !context.isShort then some (out, tables, src)
    else
      let (front, rest) ← split? size src
      let (out, tables) ← expandBlock? ⟨front.toArray⟩ tables context.frameStart context.limit out
      some (out, tables, rest)
  | _ => none

/-- What the blocks of a frame gave: the content so far, whether the last block was bare, and what
follows. -/
structure FrameBody where
  out : Array UInt8
  endsBare : Bool
  rest : Bytes

/-- Reads the blocks of a frame up to its last one. -/
def readBlocks (limit : Nat) (context : BlockContext) (fuel : Nat) (tables : Tables) (src : Bytes)
    (out : Array UInt8) : Except Fault FrameBody :=
  match fuel with
  | 0 => .error .malformed
  | fuel + 1 =>
    match number? 3 src with
    | none => .error .malformed
    | some (head, src) =>
      match readBlock? context (head / 2 % 4) (head / 8) tables src out with
      | none => .error .malformed
      | some (out, tables, rest) =>
        if limit < out.size then .error (.oversize limit)
        else if head % 2 = 1 then
          .ok { out, endsBare := isBare (head / 2 % 4) (head / 8), rest }
        else readBlocks limit context fuel tables rest out

/-- Checks the end of a frame: its content has the size that the header gave, unless that goes
unnoticed, and the checksum that follows, if there is one, is right. Gives what follows the frame. -/
def finishFrame? (header : FrameHeader) (frameStart : Nat) (body : FrameBody) : Option Bytes := do
  if header.contentSize.any (· ≠ body.out.size - frameStart) ∧
      (header.isShort ∨ !body.endsBare) then none
  if header.checked then
    let (sum, rest) ← number? 4 body.rest
    let content := body.out.extract frameStart body.out.size
    if sum = Checksum.stored content.toList then some rest else none
  else some body.rest

/-- Reads one frame after its magic number. -/
def readFrame (limit fuel : Nat) (src : Bytes) (out : Array UInt8) :
    Except Fault (Array UInt8 × Bytes) :=
  match readHeader? src with
  | none => .error .malformed
  | some (header, src) =>
    let context : BlockContext :=
      { limit := min header.window Literals.maxBlock, frameStart := out.size
        isShort := header.isShort }
    match readBlocks limit context fuel {} src out with
    | .error fault => .error fault
    | .ok body =>
      match finishFrame? header out.size body with
      | none => .error .malformed
      | some rest => .ok (body.out, rest)

/-- Passes over a frame of the reserved kind: a length, and as many bytes. -/
def skipFrame? (src : Bytes) : Option Bytes := do
  let (size, src) ← number? 4 src
  let (_, rest) ← split? size src
  some rest

/-- Whether a magic number opens a frame that is to be passed over. -/
def isSkippable (magic : Nat) : Bool :=
  magic / 16 = 0x184D2A5

/-- Reads frames until nothing is left. -/
def readFrames (limit fuel : Nat) (src : Bytes) (out : Array UInt8) :
    Except Fault (Array UInt8) :=
  match fuel with
  | 0 => .error .malformed
  | fuel + 1 =>
    match number? 4 src with
    | none => .error .malformed
    | some (head, src) =>
      let step :=
        if isSkippable head then
          (skipFrame? src).elim (.error .malformed) fun rest => .ok (out, rest)
        else if head = Bytes.ofLittleEndian magic then readFrame limit src.length src out
        else .error .malformed
      match step with
      | .error fault => .error fault
      | .ok (out, rest) => if rest.isEmpty then .ok out else readFrames limit fuel rest out

/-- The content of a compressed text, if it is no longer than `limit`. -/
def decompress (limit : Nat) (src : Bytes) : Except Fault Bytes :=
  match readFrames limit (src.length + 1) src #[] with
  | .error fault => .error fault
  | .ok out => .ok out.toList

/-! ### Writing -/

/-- A block header: whether it is the last one, its kind, its size. -/
def blockHeader (last : Bool) (kind size : Nat) : Bytes :=
  Bytes.littleEndian 3 (size * 8 + kind * 2 + (if last then 1 else 0))

/-- The kind of the block that holds a content: one for a repeated byte, and zero for other bytes. -/
def blockKind : Bytes → Nat
  | [] => 0
  | b :: rest => if rest.all (· == b) then 1 else 0

/-- What follows the header of the block that holds a content: the repeated byte, or the bytes as
they are. -/
def blockBody : Bytes → Bytes
  | [] => []
  | b :: rest => if rest.all (· == b) then [b] else b :: rest

/-- One block of at most `Literals.maxBlock` bytes. -/
def writeBlock (last : Bool) (content : Bytes) : Bytes :=
  blockHeader last (blockKind content) content.length ++ blockBody content

/-- The blocks of a content; `fuel` is at least the number of blocks. -/
def writeBlocks (fuel : Nat) (content : Bytes) : Bytes :=
  match fuel with
  | 0 => writeBlock true content
  | fuel + 1 =>
    let rest := content.drop Literals.maxBlock
    if rest.isEmpty then writeBlock true content
    else writeBlock false (content.take Literals.maxBlock) ++ writeBlocks fuel rest

/-- One frame of plain blocks, with a window of two mebibytes, no size and no checksum. -/
def compress (content : Bytes) : Bytes :=
  magic ++ [0x00, 0x58] ++ writeBlocks (content.length / Literals.maxBlock + 1) content

end ConfigReplica.Zstd
