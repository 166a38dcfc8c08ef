import ConfigReplica.Zstd.Frame

/-!
# Compressed texts are read back

What `compress` writes is read back by `decompress` up to the limit on the content, and refused
beyond it (`decompress_compress`). It follows from what is said of the parts: a number and a cut are read back
at the front of what follows them, a block adds its content (`readBlock?_body`), and so do the blocks
of a frame one after the other (`readBlocks_writeBlocks`).
-/

namespace ConfigReplica.Zstd

/-! ### Cuts and numbers -/

theorem split?_append (front : Bytes) {count : Nat} (rest : Bytes) (h : front.length = count) :
    split? count (front ++ rest) = some (front, rest) := by
  simp [split?, ← h]

theorem number?_append {count value : Nat} (rest : Bytes) (fits : value < Nat.pow 256 count) :
    number? count (Bytes.littleEndian count value ++ rest) = some (value, rest) := by
  have cut := split?_append _ rest (Bytes.length_littleEndian count value)
  have back : Bytes.ofLittleEndian (Bytes.littleEndian count value) = value := by
    rw [Bytes.ofLittleEndian_littleEndian, Nat.mod_eq_of_lt fits]
  simp [number?, cut, back]

/-! ### Blocks -/

theorem pushRun_eq (out : Array UInt8) (byte : UInt8) (count : Nat) :
    pushRun out byte count = out ++ (List.replicate count byte).toArray := by
  induction count generalizing out with
  | zero => simp [pushRun]
  | succ count ih =>
    rw [pushRun, ih, List.replicate_succ]
    apply Array.ext'
    simp

theorem blockKind_lt (content : Bytes) : blockKind content < 2 := by
  unfold blockKind
  split
  · omega
  · split <;> omega

theorem readBlock?_plain {context : BlockContext} {front : Bytes} (tables : Tables)
    (rest : Bytes) (out : Array UInt8) (small : front.length ≤ context.limit) :
    readBlock? context 0 front.length tables (front ++ rest) out =
      some (out ++ front.toArray, tables, rest) := by
  have cut := split?_append front rest rfl
  simp [readBlock?, Nat.not_lt.mpr small, cut]

theorem readBlock?_repeated {context : BlockContext} {count : Nat} (tables : Tables) (b : UInt8)
    (rest : Bytes) (out : Array UInt8) (small : count ≤ context.limit) :
    readBlock? context 1 count tables (b :: rest) out =
      some (out ++ (List.replicate count b).toArray, tables, rest) := by
  have cut : split? 1 (b :: rest) = some ([b], rest) := split?_append [b] rest rfl
  simp [readBlock?, Nat.not_lt.mpr small, cut, pushRun_eq]

/-- The body of a block adds the content that it was written for. -/
theorem readBlock?_body {context : BlockContext} {content : Bytes} (tables : Tables)
    (rest : Bytes) (out : Array UInt8) (small : content.length ≤ context.limit) :
    readBlock? context (blockKind content) content.length tables (blockBody content ++ rest) out =
      some (out ++ content.toArray, tables, rest) := by
  cases content with
  | nil => exact readBlock?_plain tables rest out small
  | cons b more =>
    by_cases same : more.all (· == b)
    · have copies : List.replicate (b :: more).length b = b :: more := by
        symm
        rw [List.eq_replicate_iff]
        simpa using same
      simp only [blockKind, blockBody, same, if_true]
      rw [List.singleton_append, readBlock?_repeated tables b rest out small, copies]
    · simp only [blockKind, blockBody, same]
      exact readBlock?_plain tables rest out small

/-- Reading one written block adds its content, unless that makes the text too long. -/
theorem readBlocks_block {context : BlockContext} {content : Bytes} (limit fuel : Nat)
    (last : Bool) (tables : Tables) (rest : Bytes) (out : Array UInt8)
    (small : content.length ≤ context.limit) (narrow : content.length ≤ Literals.maxBlock) :
    readBlocks limit context (fuel + 1) tables (writeBlock last content ++ rest) out =
      if limit < out.size + content.length then .error (.oversize limit)
      else if last then
        .ok { out := out ++ content.toArray
              endsBare := isBare (blockKind content) content.length, rest }
      else readBlocks limit context fuel tables rest (out ++ content.toArray) := by
  have kind := blockKind_lt content
  have bound : content.length * 8 + blockKind content * 2 + (if last then 1 else 0) <
      Nat.pow 256 3 := by
    have : Nat.pow 256 3 = 16777216 := rfl
    have : Literals.maxBlock = 131072 := rfl
    split <;> omega
  rw [readBlocks, writeBlock, blockHeader, List.append_assoc, number?_append _ bound]
  simp only
  rw [show (content.length * 8 + blockKind content * 2 + (if last then 1 else 0)) / 2 % 4 =
      blockKind content by split <;> omega,
    show (content.length * 8 + blockKind content * 2 + (if last then 1 else 0)) / 8 =
      content.length by split <;> omega,
    readBlock?_body tables rest out small]
  have size : (out ++ content.toArray).size = out.size + content.length := by simp
  simp only [size]
  by_cases large : limit < out.size + content.length
  · rw [if_pos large, if_pos large]
  · rw [if_neg large, if_neg large]
    cases last <;> simp <;> omega

/-! ### Frames -/

theorem length_writeBlock (last : Bool) (content : Bytes) :
    3 ≤ (writeBlock last content).length := by
  simp [writeBlock, blockHeader]

/-- The blocks of a content add it, unless that makes the text too long. -/
theorem readBlocks_writeBlocks (limit : Nat) (context : BlockContext)
    (plain : context.limit = Literals.maxBlock) (blocks fuel : Nat) (tables : Tables)
    (content rest : Bytes) (out : Array UInt8)
    (enough : content.length ≤ (blocks + 1) * Literals.maxBlock)
    (long : (writeBlocks blocks content).length ≤ fuel) (begun : out.size ≤ limit) :
    ∃ endsBare, readBlocks limit context fuel tables (writeBlocks blocks content ++ rest) out =
      if limit < out.size + content.length then .error (.oversize limit)
      else .ok { out := out ++ content.toArray, endsBare, rest } := by
  induction blocks generalizing content out fuel with
  | zero =>
    rw [writeBlocks] at long ⊢
    have := length_writeBlock true content
    obtain ⟨fuel, rfl⟩ : ∃ f, fuel = f + 1 := ⟨fuel - 1, by omega⟩
    exact ⟨_, by
      rw [readBlocks_block limit fuel true tables rest out (by omega) (by omega), if_pos rfl]⟩
  | succ blocks ih =>
    rw [writeBlocks] at long ⊢
    by_cases short : (content.drop Literals.maxBlock).isEmpty
    · simp only [short, if_true] at long ⊢
      have := length_writeBlock true content
      have small : content.length ≤ Literals.maxBlock := by simpa using short
      obtain ⟨fuel, rfl⟩ : ∃ f, fuel = f + 1 := ⟨fuel - 1, by omega⟩
      exact ⟨_, by
        rw [readBlocks_block limit fuel true tables rest out (by omega) small, if_pos rfl]⟩
    · simp only [short, Bool.false_eq_true, if_false, List.length_append, List.append_assoc]
        at long ⊢
      have := length_writeBlock false (content.take Literals.maxBlock)
      have front : (content.take Literals.maxBlock).length = Literals.maxBlock := by
        have : ¬ content.length ≤ Literals.maxBlock := by simpa using short
        simp; omega
      have whole : content.length =
          Literals.maxBlock + (content.drop Literals.maxBlock).length := by
        have := congrArg List.length (List.take_append_drop Literals.maxBlock content)
        simp only [List.length_append, front] at this
        omega
      obtain ⟨fuel, rfl⟩ : ∃ f, fuel = f + 1 := ⟨fuel - 1, by omega⟩
      rw [readBlocks_block limit fuel false tables _ out (by omega) (by omega)]
      by_cases large : limit < out.size + (content.take Literals.maxBlock).length
      · -- the first block alone is too long
        exact ⟨false, by rw [if_pos large, if_pos (by omega)]⟩
      · have size : (out ++ (content.take Literals.maxBlock).toArray).size =
            out.size + Literals.maxBlock := by
          simp only [Array.size_append, List.size_toArray, front]
        obtain ⟨endsBare, tail⟩ := ih fuel (content.drop Literals.maxBlock)
          (out ++ (content.take Literals.maxBlock).toArray)
          (by rw [Nat.succ_mul] at enough; omega) (by omega) (by omega)
        refine ⟨endsBare, ?_⟩
        rw [if_neg large, if_neg (by decide), tail, size, whole, Nat.add_assoc]
        simp [Array.append_assoc]

theorem readHeader?_plain (rest : Bytes) :
    readHeader? (0x00 :: 0x58 :: rest) =
      some ({ window := windowOf 0x58, contentSize := none, checked := false }, rest) := by
  have byte (b : UInt8) (src : Bytes) : number? 1 (b :: src) = some (b.toNat, src) := by
    simp [number?, split?, Bytes.ofLittleEndian]
  have none (src : Bytes) : number? 0 src = some (0, src) := by
    simp [number?, split?, Bytes.ofLittleEndian]
  have window : windowOf 88 ≤ 134217728 := by decide
  simp [readHeader?, byte, none, contentSize?, FrameHeader.maxWindow, FrameHeader.isShort, window]

theorem readFrame_writeBlocks (limit : Nat) (content : Bytes) (blocks : Nat)
    (enough : content.length ≤ (blocks + 1) * Literals.maxBlock) :
    readFrame limit (0x00 :: 0x58 :: writeBlocks blocks content).length
      (0x00 :: 0x58 :: writeBlocks blocks content) #[] =
        if limit < content.length then .error (.oversize limit)
        else .ok (content.toArray, []) := by
  obtain ⟨endsBare, body⟩ := readBlocks_writeBlocks limit
    ⟨min (windowOf 0x58) Literals.maxBlock, 0, false⟩ (by decide) blocks
    (0x00 :: 0x58 :: writeBlocks blocks content).length {} content [] #[] enough
    (by simp only [List.length_cons]; omega) (by simp)
  rw [List.append_nil] at body
  simp only [readFrame, readHeader?_plain, FrameHeader.isShort, Option.any_none,
    Array.size_empty, body, Nat.zero_add]
  by_cases large : limit < content.length
  · rw [if_pos large, if_pos large]
  · rw [if_neg large, if_neg large]
    simp [finishFrame?]

/-- **Reading back.** What was compressed is read back if it is no longer than the limit, and refused
otherwise. -/
theorem decompress_compress (limit : Nat) (content : Bytes) :
    decompress limit (compress content) =
      if limit < content.length then .error (.oversize limit) else .ok content := by
  have enough : content.length ≤
      (content.length / Literals.maxBlock + 1 + 1) * Literals.maxBlock := by
    simp only [Literals.maxBlock]; omega
  have frame := readFrame_writeBlocks limit content _ enough
  have head (src : Bytes) : number? 4 (magic ++ src) = some (Bytes.ofLittleEndian magic, src) := by
    have cut : split? 4 (magic ++ src) = some (magic, src) := split?_append magic src rfl
    simp [number?, cut]
  have plain : isSkippable (Bytes.ofLittleEndian magic) = false := by decide
  have start : [0x00, 0x58] ++ writeBlocks (content.length / Literals.maxBlock + 1) content =
      0x00 :: 0x58 :: writeBlocks (content.length / Literals.maxBlock + 1) content := rfl
  rw [compress, List.append_assoc, start, decompress, readFrames, head]
  simp only [plain, frame, if_true, Bool.false_eq_true, if_false]
  by_cases large : limit < content.length
  · rw [if_pos large, if_pos large]
  · rw [if_neg large, if_neg large]
    simp

end ConfigReplica.Zstd
