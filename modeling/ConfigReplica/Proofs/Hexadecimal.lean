import ConfigReplica.Hex
import ConfigReplica.Text.Blank
import ConfigReplica.Text.Lowercase

/-!
# Which texts are hexadecimal

A text stands for bytes exactly if it has two characters for each of them, and all of its characters
are hexadecimal digits of either case (`Hex.decodes_iff`). Digits are looked for among the bytes of
a text, not among its characters. That makes no difference: a digit is one byte, and a character of
more bytes than one has no byte that is a digit.

In lower case a text stands for the same bytes (`Hex.decode_lower`), and it is the text that these
bytes are written as (`Hex.encode_of_decode`).
-/

namespace ConfigReplica

/-! ### Characters and bytes of the ASCII range -/

/-- What holds of all characters of the ASCII range by their numbers. -/
theorem forall_ascii {P : Char → Prop} (each : ∀ n < 128, P (Char.ofNat n)) {c : Char}
    (ascii : c.toNat < 128) : P c := by
  have holds := each c.toNat ascii
  rwa [Char.ofNat_toNat] at holds

/-- What holds of all bytes by their numbers. -/
theorem forall_byte {P : UInt8 → Prop} (each : ∀ n < 256, P (UInt8.ofNat n)) (b : UInt8) : P b := by
  have holds := each b.toNat b.toNat_lt
  rwa [UInt8.ofNat_toNat] at holds

namespace Bytes

/-- The bytes of a text are those of its characters. -/
theorem utf8_eq_flatMap (text : String) :
    utf8 text = text.toList.flatMap String.utf8EncodeChar := by
  unfold utf8
  rw [String.toUTF8, ← String.utf8Encode_toList, List.utf8Encode]
  simp

/-- A character of the ASCII range is one byte, and the bytes of all others are beyond it. -/
theorem utf8EncodeChar_cases (c : Char) :
    (c.toNat < 128 ∧ String.utf8EncodeChar c = [UInt8.ofNat c.toNat]) ∨
      (128 ≤ c.toNat ∧ ∀ b ∈ String.utf8EncodeChar c, 128 ≤ b.toNat) := by
  have same : c.val.toNat = c.toNat := rfl
  -- the longer a character is, the more bytes it has, and each is marked in its highest bit
  by_cases ascii : c.toNat < 128
  · refine .inl ⟨ascii, ?_⟩
    rw [String.utf8EncodeChar, same]
    exact if_pos (Nat.le_of_lt_succ ascii)
  · refine .inr ⟨Nat.le_of_not_lt ascii, fun b mem => ?_⟩
    rw [String.utf8EncodeChar, same, if_neg (by omega)] at mem
    split at mem
    · simp only [List.mem_cons, List.not_mem_nil, or_false] at mem
      rcases mem with rfl | rfl <;> rw [UInt8.toNat_ofNat'] <;> omega
    · split at mem
      · simp only [List.mem_cons, List.not_mem_nil, or_false] at mem
        rcases mem with rfl | rfl | rfl <;> rw [UInt8.toNat_ofNat'] <;> omega
      · simp only [List.mem_cons, List.not_mem_nil, or_false] at mem
        rcases mem with rfl | rfl | rfl | rfl <;> rw [UInt8.toNat_ofNat'] <;> omega

/-- The bytes of a text in the ASCII range are its characters. -/
theorem utf8_of_ascii {text : String} (ascii : ∀ c ∈ text.toList, c.toNat < 128) :
    utf8 text = text.toList.map fun c => UInt8.ofNat c.toNat := by
  have each : text.toList.map String.utf8EncodeChar =
      text.toList.map fun c => [UInt8.ofNat c.toNat] := by
    refine List.map_congr_left fun c mem => ?_
    rcases utf8EncodeChar_cases c with ⟨-, one⟩ | ⟨beyond, -⟩
    · exact one
    · exact absurd (ascii c mem) (Nat.not_lt.mpr beyond)
  rw [utf8_eq_flatMap, List.flatMap_def, each, ← List.flatMap_def, ← List.map_eq_flatMap]

end Bytes

/-! ### Letters in lower case -/

namespace Text

/-- No letter is beyond the ASCII range. -/
theorem lowerAscii_of_le {c : Char} (beyond : 128 ≤ c.toNat) : lowerAscii c = c := by
  refine if_neg fun letter => ?_
  have : c.toNat ≤ 'Z'.toNat := Char.le_def.mp letter.2
  have : 'Z'.toNat = 90 := rfl
  omega

/-- Letters in lower case stay as they are. -/
@[simp] theorem lowerAscii_lowerAscii (c : Char) : lowerAscii (lowerAscii c) = lowerAscii c := by
  by_cases ascii : c.toNat < 128
  · exact forall_ascii (P := fun c => lowerAscii (lowerAscii c) = lowerAscii c)
      (by decide +kernel) ascii
  · rw [lowerAscii_of_le (Nat.le_of_not_lt ascii), lowerAscii_of_le (Nat.le_of_not_lt ascii)]

end Text

namespace Hex

/-- The byte of a letter in lower case. -/
def lowerByte (b : UInt8) : UInt8 :=
  if 65 ≤ b ∧ b ≤ 90 then b + 32 else b

/-- The case of a digit does not matter. -/
theorem byteValue?_lowerByte (b : UInt8) : byteValue? (lowerByte b) = byteValue? b :=
  forall_byte (P := fun b => byteValue? (lowerByte b) = byteValue? b) (by decide +kernel) b

/-- The byte of a digit is in the ASCII range. -/
theorem toNat_lt_of_isSome {b : UInt8} (digit : (byteValue? b).isSome) : b.toNat < 128 :=
  forall_byte (P := fun b => (byteValue? b).isSome → b.toNat < 128) (by decide +kernel) b digit

/-- A text in lower case has the bytes in lower case. -/
theorem utf8EncodeChar_lowerAscii (c : Char) :
    String.utf8EncodeChar (Text.lowerAscii c) = (String.utf8EncodeChar c).map lowerByte := by
  rcases Bytes.utf8EncodeChar_cases c with ⟨ascii, -⟩ | ⟨beyond, bytes⟩
  · exact forall_ascii (P := fun c => String.utf8EncodeChar (Text.lowerAscii c) =
      (String.utf8EncodeChar c).map lowerByte) (by decide +kernel) ascii
  · rw [Text.lowerAscii_of_le beyond]
    -- the letters are in the ASCII range
    have same : ∀ b ∈ String.utf8EncodeChar c, lowerByte b = b := by
      intro b mem
      refine if_neg fun letter => ?_
      have := bytes b mem
      have : b.toNat ≤ 90 := UInt8.le_iff_toNat_le.mp letter.2
      omega
    rw [List.map_congr_left same, List.map_id']

/-- A whole text in lower case has the bytes in lower case. -/
theorem utf8_map_lowerAscii (text : String) :
    Bytes.utf8 (String.ofList (text.toList.map Text.lowerAscii)) =
      (Bytes.utf8 text).map lowerByte := by
  rw [Bytes.utf8_eq_flatMap, Bytes.utf8_eq_flatMap, String.toList_ofList, List.flatMap_map,
    List.map_flatMap]
  exact congrArg (text.toList.flatMap ·) (funext utf8EncodeChar_lowerAscii)

/-- Digits stand for the same bytes in lower case, and all that was read are digits. -/
theorem decodePairs_lower {position : Nat} {digits bytes : Bytes}
    (decoded : decodePairs position digits = .ok bytes) :
    decodePairs position (digits.map lowerByte) = .ok bytes ∧
      ∀ b ∈ digits, (byteValue? b).isSome := by
  fun_induction decodePairs position digits generalizing bytes with
  | case1 => exact ⟨decoded, nofun⟩
  | case2 => cases decoded
  | case3 => cases decoded
  | case4 => cases decoded
  | case5 => cases decoded
  | case6 position high low rest h l first second more later ih =>
    obtain ⟨lower, digits⟩ := ih later
    refine ⟨?_, ?_⟩
    · rw [List.map_cons, List.map_cons, decodePairs, byteValue?_lowerByte, byteValue?_lowerByte,
        first, second, lower]
      exact decoded
    · rw [List.forall_mem_cons, List.forall_mem_cons, first, second]
      exact ⟨rfl, rfl, digits⟩

/-- **Hexadecimal text in lower case** stands for the same bytes. -/
theorem decode_lower {text : String} {bytes : Bytes} (decoded : decode text = .ok bytes) :
    decode (String.ofList (text.toList.map Text.lowerAscii)) = .ok bytes := by
  unfold decode at decoded ⊢
  rw [utf8_map_lowerAscii]
  dsimp only at decoded ⊢
  rw [List.length_map]
  split at decoded
  · cases decoded
  · next even =>
    rw [if_neg even]
    exact (decodePairs_lower decoded).1

/-! ### Digits and what they are read as -/

/-- A hexadecimal digit of either case. -/
def IsDigit (c : Char) : Prop :=
  c.isDigit ∨ ('a' ≤ c ∧ c ≤ 'f') ∨ ('A' ≤ c ∧ c ≤ 'F')

/-- What is read as a number is a digit, and every digit is. -/
theorem isSome_value?_iff {c : Char} : (value? c).isSome ↔ IsDigit c := by
  have decimal : c.isDigit ↔ '0' ≤ c ∧ c ≤ '9' := by
    simp [Char.isDigit, Char.le_def]
  unfold value? IsDigit
  rw [decimal]
  split
  · next digit => exact ⟨fun _ => .inl digit, fun _ => rfl⟩
  · next other =>
    split
    · next lower => exact ⟨fun _ => .inr (.inl lower), fun _ => rfl⟩
    · next other' =>
      split
      · next upper => exact ⟨fun _ => .inr (.inr upper), fun _ => rfl⟩
      · next none => exact ⟨nofun, fun digit => by rcases digit with h | h | h <;> contradiction⟩

/-- Digits are in the ASCII range. -/
theorem IsDigit.toNat_lt {c : Char} (digit : IsDigit c) : c.toNat < 128 := by
  rcases digit with decimal | ⟨-, le⟩ | ⟨-, le⟩
  · have le : c.toNat ≤ '9'.toNat := by
      have both : '0' ≤ c ∧ c ≤ '9' := by simpa [Char.isDigit, Char.le_def] using decimal
      exact Char.le_def.mp both.2
    exact Nat.lt_of_le_of_lt le (by decide)
  · exact Nat.lt_of_le_of_lt (Char.le_def.mp le) (by decide)
  · exact Nat.lt_of_le_of_lt (Char.le_def.mp le) (by decide)

/-- Digits are no hyphens and no blanks. -/
theorem IsDigit.plain {c : Char} (digit : IsDigit c) : c ≠ '-' ∧ Text.isBlank c = false :=
  forall_ascii (P := fun c => (value? c).isSome → c ≠ '-' ∧ Text.isBlank c = false)
    (by decide +kernel) digit.toNat_lt (isSome_value?_iff.mpr digit)

/-- A character of the ASCII range is the character of its byte. -/
theorem char_ofNat {c : Char} (ascii : c.toNat < 128) :
    Char.ofNat (UInt8.ofNat c.toNat).toNat = c := by
  have number : (UInt8.ofNat c.toNat).toNat = c.toNat := by
    rw [UInt8.toNat_ofNat']
    omega
  rw [number, Char.ofNat_toNat]

/-- The one byte of a character of the ASCII range is read as the character. -/
theorem byteValue?_ofNat {c : Char} (ascii : c.toNat < 128) :
    byteValue? (UInt8.ofNat c.toNat) = value? c := by
  rw [byteValue?, char_ofNat ascii]

/-- Two digits were read for every byte. -/
theorem length_of_decodePairs {position : Nat} {digits bytes : Bytes}
    (decoded : decodePairs position digits = .ok bytes) : digits.length = 2 * bytes.length := by
  fun_induction decodePairs position digits generalizing bytes with
  | case1 =>
    cases decoded
    rfl
  | case2 => cases decoded
  | case3 => cases decoded
  | case4 => cases decoded
  | case5 => cases decoded
  | case6 position high low rest h l first second more later ih =>
    cases decoded
    rw [List.length_cons, List.length_cons, List.length_cons, ih later]
    omega

/-- Pairs of digits are read. -/
theorem exists_decodePairs (position : Nat) {digits : Bytes}
    (all : ∀ b ∈ digits, (byteValue? b).isSome) (even : digits.length % 2 = 0) :
    ∃ bytes, decodePairs position digits = .ok bytes := by
  fun_induction decodePairs position digits with
  | case1 => exact ⟨[], rfl⟩
  -- the cases are those of the reader: it ends, or it meets a character that is no digit
  | case2 => cases even
  | case3 position high low rest first =>
    have digit := all high (.head _)
    rw [first] at digit
    cases digit
  | case4 position high low rest second _ =>
    have digit := all low (.tail _ (.head _))
    rw [second] at digit
    cases digit
  | case5 position high low rest h l first second fault refused ih =>
    rw [List.length_cons, List.length_cons] at even
    have others : ∀ b ∈ rest, (byteValue? b).isSome := fun b mem => all b (.tail _ (.tail _ mem))
    obtain ⟨bytes, read⟩ := ih others (by omega)
    cases refused.symm.trans read
  | case6 => exact ⟨_, rfl⟩

/-- All characters of hexadecimal text are digits. -/
theorem isDigit_of_decode {text : String} {bytes : Bytes} (decoded : decode text = .ok bytes) :
    ∀ c ∈ text.toList, IsDigit c := by
  have digits : ∀ b ∈ Bytes.utf8 text, (byteValue? b).isSome := by
    unfold decode at decoded
    dsimp only at decoded
    split at decoded
    · cases decoded
    · exact (decodePairs_lower decoded).2
  intro c mem
  have own : ∀ b ∈ String.utf8EncodeChar c, (byteValue? b).isSome := by
    intro b here
    refine digits b ?_
    rw [Bytes.utf8_eq_flatMap]
    exact List.mem_flatMap.mpr ⟨c, mem, here⟩
  rcases Bytes.utf8EncodeChar_cases c with ⟨ascii, one⟩ | ⟨beyond, bytes⟩
  · have digit := own _ (one ▸ List.mem_singleton_self _)
    rwa [byteValue?_ofNat ascii, isSome_value?_iff] at digit
  · -- a character has some byte, and it would be a digit
    obtain ⟨b, here⟩ := List.exists_mem_of_ne_nil _ (String.utf8EncodeChar_ne_nil (c := c))
    have := toNat_lt_of_isSome (own b here)
    have := bytes b here
    omega

/-- **Which texts stand for so many bytes**: those of twice as many hexadecimal digits. -/
theorem decodes_iff (text : String) (count : Nat) :
    (∃ bytes, decode text = .ok bytes ∧ bytes.length = count) ↔
      text.toList.length = 2 * count ∧ ∀ c ∈ text.toList, IsDigit c := by
  constructor
  · rintro ⟨bytes, decoded, rfl⟩
    have digits := isDigit_of_decode decoded
    refine ⟨?_, digits⟩
    -- all characters are digits, so the text has as many bytes as characters
    have one := Bytes.utf8_of_ascii fun c mem => (digits c mem).toNat_lt
    unfold decode at decoded
    dsimp only at decoded
    split at decoded
    · cases decoded
    · have pairs := length_of_decodePairs decoded
      rwa [one, List.length_map] at pairs
  · rintro ⟨length, digits⟩
    have one := Bytes.utf8_of_ascii fun c mem => (digits c mem).toNat_lt
    have all : ∀ b ∈ Bytes.utf8 text, (byteValue? b).isSome := by
      rw [one, List.forall_mem_map]
      intro c mem
      rw [byteValue?_ofNat (digits c mem).toNat_lt, isSome_value?_iff]
      exact digits c mem
    have pairs : (Bytes.utf8 text).length = 2 * count := by rw [one, List.length_map, length]
    obtain ⟨bytes, decoded⟩ := exists_decodePairs 0 all (by omega)
    refine ⟨bytes, ?_, ?_⟩
    · unfold decode
      dsimp only
      rw [if_neg (by omega)]
      exact decoded
    · have counted := length_of_decodePairs decoded
      omega

/-! ### Bytes that are written -/

/-- A digit that is written is read as its number. -/
theorem value?_digit : ∀ n < 16, value? (digit n) = some n := by
  decide

/-- What is written is a digit. -/
theorem isDigit_digit {n : Nat} (small : n < 16) : IsDigit (digit n) :=
  isSome_value?_iff.mp (by rw [value?_digit n small]; rfl)

/-- Bytes are written with digits only. -/
theorem isDigit_of_mem_encodeChars {bytes : Bytes} {c : Char} (mem : c ∈ encodeChars bytes) :
    IsDigit c := by
  obtain ⟨b, -, pair⟩ := List.mem_flatMap.mp mem
  have small := b.toNat_lt
  simp only [List.mem_cons, List.not_mem_nil, or_false] at pair
  rcases pair with rfl | rfl
  · exact isDigit_digit (by omega)
  · exact isDigit_digit (by omega)

/-- It is read back from its byte. -/
theorem byteValue?_digit {n : Nat} (small : n < 16) :
    byteValue? (UInt8.ofNat (digit n).toNat) = some n := by
  rw [byteValue?_ofNat (isDigit_digit small).toNat_lt, value?_digit n small]

/-- Pairs of digits are read as the bytes they were written for. -/
theorem decodePairs_encodeChars (position : Nat) (bytes : Bytes) :
    decodePairs position ((encodeChars bytes).map fun c => UInt8.ofNat c.toNat) = .ok bytes := by
  induction bytes generalizing position with
  | nil => rfl
  | cons b bytes ih =>
    have small := b.toNat_lt
    have pair : encodeChars (b :: bytes) =
        digit (b.toNat / 16) :: digit (b.toNat % 16) :: encodeChars bytes := rfl
    rw [pair, List.map_cons, List.map_cons, decodePairs, byteValue?_digit (by omega),
      byteValue?_digit (by omega)]
    dsimp only
    rw [ih, Nat.div_add_mod' b.toNat 16, UInt8.ofNat_toNat]

/-- **Bytes are read as they were written.** -/
theorem decode_encode (bytes : Bytes) : decode (encode bytes) = .ok bytes := by
  have chars : (encode bytes).toList = encodeChars bytes := String.toList_ofList
  have ascii : ∀ c ∈ (encode bytes).toList, c.toNat < 128 := fun c mem =>
    (isDigit_of_mem_encodeChars (chars ▸ mem)).toNat_lt
  have one := Bytes.utf8_of_ascii ascii
  have pairs := decodePairs_encodeChars 0 bytes
  rw [← chars, ← one] at pairs
  have even := length_of_decodePairs pairs
  unfold decode
  dsimp only
  rw [if_neg (by omega), pairs]

/-! ### Bytes that were read -/

/-- A digit of either case is written in lower case. -/
theorem digit_of_value? {c : Char} {n : Nat} (read : value? c = some n) :
    digit n = Text.lowerAscii c ∧ n < 16 := by
  have ascii : c.toNat < 128 := (isSome_value?_iff.mp (by rw [read]; rfl)).toNat_lt
  have each : (value? c).all fun n => digit n = Text.lowerAscii c ∧ n < 16 :=
    forall_ascii (P := fun c => (value? c).all fun n => digit n = Text.lowerAscii c ∧ n < 16)
      (by decide +kernel) ascii
  rw [read] at each
  exact of_decide_eq_true each

/-- Bytes are written with the digits that they were read from, in lower case. -/
theorem encodeChars_of_decodePairs {position : Nat} {digits bytes : Bytes}
    (decoded : decodePairs position digits = .ok bytes) :
    encodeChars bytes = digits.map fun b => Text.lowerAscii (Char.ofNat b.toNat) := by
  fun_induction decodePairs position digits generalizing bytes with
  | case1 =>
    cases decoded
    rfl
  | case2 => cases decoded
  | case3 => cases decoded
  | case4 => cases decoded
  | case5 => cases decoded
  | case6 position high low rest h l first second more later ih =>
    cases decoded
    obtain ⟨lowerHigh, smallHigh⟩ := digit_of_value? first
    obtain ⟨lowerLow, smallLow⟩ := digit_of_value? second
    -- the byte is taken apart into the two digits that it was put together from
    have number : (UInt8.ofNat (h * 16 + l)).toNat = h * 16 + l := by
      rw [UInt8.toNat_ofNat']
      omega
    have upper : (h * 16 + l) / 16 = h := by omega
    have lower : (h * 16 + l) % 16 = l := by omega
    calc encodeChars (UInt8.ofNat (h * 16 + l) :: more)
        = digit h :: digit l :: encodeChars more := by
          rw [encodeChars, List.flatMap_cons, number, upper, lower]
          rfl
      _ = (high :: low :: rest).map fun b => Text.lowerAscii (Char.ofNat b.toNat) := by
          rw [ih later, lowerHigh, lowerLow]
          rfl

/-- **Bytes are written as they were read**, but for the case of the digits. -/
theorem encode_of_decode {text : String} {bytes : Bytes} (decoded : decode text = .ok bytes) :
    encode bytes = String.ofList (text.toList.map Text.lowerAscii) := by
  -- the reader looks at bytes, and each is a character since all are digits
  have digits := isDigit_of_decode decoded
  have one := Bytes.utf8_of_ascii fun c mem => (digits c mem).toNat_lt
  have pairs : decodePairs 0 (Bytes.utf8 text) = .ok bytes := by
    unfold decode at decoded
    dsimp only at decoded
    split at decoded
    · cases decoded
    · exact decoded
  have same : ∀ c ∈ text.toList,
      Text.lowerAscii (Char.ofNat (UInt8.ofNat c.toNat).toNat) = Text.lowerAscii c := by
    intro c mem
    rw [char_ofNat (digits c mem).toNat_lt]
  rw [encode, encodeChars_of_decodePairs pairs, one, List.map_map]
  exact congrArg String.ofList (List.map_congr_left same)

end Hex

end ConfigReplica
