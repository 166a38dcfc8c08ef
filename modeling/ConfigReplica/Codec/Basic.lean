import ConfigReplica.Bytes

/-!
# Binary codecs

A `Codec` says how values of a type are written as bytes and how they are read back from the front
of a byte string. Codecs of parts are put together to codecs of records, lists and maps, so that
writing and reading stay side by side. Reading is more lenient than writing in one respect: numbers
may be padded with zero groups.

`Codec.Faithful` says that what was written is read back and nothing after it is touched. It is
stated for encodings of less than `UInt64.size` bytes, since lengths are written in 64 bits.
-/

namespace ConfigReplica

/-- Why bytes cannot be read. -/
inductive CodecFault where
  | endOfBytes
  | badNumber
  | badFlag
  | badOption
  | badText
  | unknownTag
  deriving DecidableEq, Repr

/-- The wording of a fault. -/
def CodecFault.message : CodecFault → String
  | .endOfBytes => "Hit the end of buffer, expected more data"
  | .badNumber =>
    "Found a varint that didn't terminate. Is the usize too big for this platform?"
  | .badFlag => "Found a bool that wasn't 0 or 1"
  | .badOption => "Found an Option discriminant that wasn't 0 or 1"
  | .badText => "Tried to parse invalid utf-8"
  | .unknownTag => "Serde Deserialization Error"

/-- A way to write values as bytes and to read them back. -/
structure Codec (α : Type) where
  write : α → Bytes
  read : Bytes → Except CodecFault (α × Bytes)

namespace Codec

variable {α β : Type}

/-- What was written is read back, and what follows it is left alone. -/
def Faithful (c : Codec α) : Prop :=
  ∀ (x : α) (rest : Bytes), (c.write x).length < UInt64.size → c.read (c.write x ++ rest) = .ok (x, rest)

/-- The value at the front of a byte string; what follows it is ignored. -/
def decode (c : Codec α) (bytes : Bytes) : Except CodecFault α :=
  (c.read bytes).map Prod.fst

/-- Decoding what was written gives it back. -/
theorem decode_write {c : Codec α} (h : c.Faithful) (x : α) (small : (c.write x).length < UInt64.size) :
    c.decode (c.write x) = .ok x := by
  have read := h x [] small
  rw [List.append_nil] at read
  simp [decode, read, Except.map]

/-! ### Numbers -/

/-- A number in groups of seven bits, lowest first; all groups but the last are marked. At most
`groups` groups are written. -/
def writeGroups (groups n : Nat) : Bytes :=
  match groups with
  | 0 => []
  | groups + 1 =>
    if n < 128 ∨ groups = 0 then [UInt8.ofNat n]
    else UInt8.ofNat (n % 128 + 128) :: writeGroups groups (n / 128)

/-- Reads a number of at most `groups` groups, of which the last possible one may not exceed
`lastMax`. -/
def readGroups (groups lastMax : Nat) (bytes : Bytes) : Except CodecFault (Nat × Bytes) :=
  match groups with
  | 0 => .error .badNumber
  | groups + 1 =>
    match bytes with
    | [] => .error .endOfBytes
    | b :: rest =>
      if b.toNat < 128 then
        if groups = 0 ∧ lastMax < b.toNat then .error .badNumber else .ok (b.toNat, rest)
      else
        match readGroups groups lastMax rest with
        | .error fault => .error fault
        | .ok (n, rest) => .ok (b.toNat - 128 + 128 * n, rest)

/-- How many numbers can be read from one group more than `groups`. -/
def capacity (groups lastMax : Nat) : Nat :=
  match groups with
  | 0 => lastMax + 1
  | groups + 1 => 128 * capacity groups lastMax

/-- Ten groups hold a number of 64 bits. -/
theorem capacity_nine : capacity 9 1 = UInt64.size := rfl

/-- A number that the groups have room for is read back. -/
theorem readGroups_writeGroups (groups lastMax n : Nat) (rest : Bytes)
    (fits : n < capacity groups lastMax) (narrow : lastMax < 128) :
    readGroups (groups + 1) lastMax (writeGroups (groups + 1) n ++ rest) = .ok (n, rest) := by
  induction groups generalizing n with
  | zero =>
    simp only [capacity] at fits
    have byte : (UInt8.ofNat n).toNat = n := by simp; omega
    simp only [writeGroups, or_true, ite_true, List.cons_append, List.nil_append, readGroups, byte]
    rw [if_pos (by omega), if_neg (by omega)]
  | succ groups ih =>
    rw [writeGroups]
    by_cases h : n < 128
    · have byte : (UInt8.ofNat n).toNat = n := by simp; omega
      simp only [h, true_or, ite_true, List.cons_append, List.nil_append, readGroups, byte]
      simp
    · have byte : (UInt8.ofNat (n % 128 + 128)).toNat = n % 128 + 128 := by simp; omega
      have tail := ih (n / 128) (Nat.div_lt_of_lt_mul fits)
      rw [if_neg (by omega), List.cons_append, readGroups, byte]
      simp only [tail]
      rw [if_neg (by omega)]
      simp only [Except.ok.injEq, Prod.mk.injEq, and_true]
      omega

/-- Unsigned numbers of 64 bits. -/
def word : Codec UInt64 where
  write x := writeGroups 10 x.toNat
  read bytes := (readGroups 10 1 bytes).map fun (n, rest) => (UInt64.ofNat n, rest)

theorem faithful_word : word.Faithful := by
  intro x rest _
  have bound : x.toNat < capacity 9 1 := x.toNat_lt
  simp only [word, readGroups_writeGroups 9 1 x.toNat rest bound (by omega), Except.map]
  simp

/-- Folds signs into numbers: 0, -1, 1, -2, 2, … become 0, 1, 2, 3, 4, …. -/
def foldSign (n : Int) : Nat :=
  if 0 ≤ n then 2 * n.toNat else 2 * (-n).toNat - 1

/-- Undoes `foldSign`. -/
def unfoldSign (n : Nat) : Int :=
  if n % 2 = 0 then ((n / 2 : Nat) : Int) else -(((n / 2 : Nat) : Int) + 1)

@[simp] theorem unfoldSign_foldSign (n : Int) : unfoldSign (foldSign n) = n := by
  unfold unfoldSign foldSign
  split <;> split <;> omega

/-- Signed numbers of 64 bits. -/
def int : Codec Int64 where
  write x := writeGroups 10 (foldSign x.toInt)
  read bytes := (readGroups 10 1 bytes).map fun (n, rest) => (Int64.ofInt (unfoldSign n), rest)

theorem faithful_int : int.Faithful := by
  intro x rest _
  have low := x.le_toInt
  have high := x.toInt_lt
  have bound : foldSign x.toInt < capacity 9 1 := by
    rw [capacity_nine]
    unfold foldSign UInt64.size
    split <;> omega
  simp only [int, readGroups_writeGroups 9 1 _ rest bound (by omega), Except.map]
  simp

/-- Lengths, as numbers of 64 bits. -/
def length : Codec Nat where
  write n := writeGroups 10 n
  read := readGroups 10 1

theorem read_length (n : Nat) (rest : Bytes) (small : n < UInt64.size) :
    length.read (length.write n ++ rest) = .ok (n, rest) :=
  readGroups_writeGroups 9 1 n rest small (by omega)

/-- One byte. -/
def byte : Codec UInt8 where
  write b := [b]
  read
    | [] => .error .endOfBytes
    | b :: rest => .ok (b, rest)

theorem faithful_byte : byte.Faithful := fun _ _ _ => rfl

/-- Truth values, as the bytes 0 and 1. -/
def flag : Codec Bool where
  write b := [if b then 1 else 0]
  read
    | [] => .error .endOfBytes
    | b :: rest =>
      if b = 0 then .ok (false, rest) else if b = 1 then .ok (true, rest) else .error .badFlag

theorem faithful_flag : flag.Faithful := by
  intro b rest _
  cases b <;> rfl

/-! ### Byte strings and texts -/

/-- A fixed number of bytes without their number. -/
def exactly (count : Nat) : Codec (Vector UInt8 count) where
  write v := v.toList
  read bytes :=
    if h : (bytes.take count).length = count then
      .ok (⟨(bytes.take count).toArray, by simpa using h⟩, bytes.drop count)
    else .error .endOfBytes

theorem faithful_exactly (count : Nat) : (exactly count).Faithful := by
  intro v rest _
  have front : (v.toList ++ rest).take count = v.toList := List.take_left' v.length_toList
  simp only [exactly, front, Vector.length_toList, dite_true]
  simp [Vector.toList]

/-- Bytes after their number. -/
def bytes : Codec Bytes where
  write bs := length.write bs.length ++ bs
  read src :=
    match length.read src with
    | .error fault => .error fault
    | .ok (n, rest) =>
      let front := rest.take n
      if front.length = n then .ok (front, rest.drop n) else .error .endOfBytes

theorem faithful_bytes : bytes.Faithful := by
  intro bs rest small
  have fits : bs.length < UInt64.size := by
    have : (bytes.write bs).length = (length.write bs.length).length + bs.length := by
      simp [bytes]
    omega
  simp [bytes, List.append_assoc, read_length _ _ fits]

/-- Texts, as the bytes of their UTF-8 encoding after their number. -/
def text : Codec String where
  write s := bytes.write (Bytes.utf8 s)
  read src :=
    match bytes.read src with
    | .error fault => .error fault
    | .ok (bs, rest) =>
      match Bytes.ofUtf8? bs with
      | none => .error .badText
      | some s => .ok (s, rest)

theorem faithful_text : text.Faithful := by
  intro s rest small
  simp [text, faithful_bytes _ rest small]

/-! ### Compound values -/

/-- Nothing, or a value: the bytes 0 and 1, the second followed by the value. -/
def option (c : Codec α) : Codec (Option α) where
  write
    | none => [0]
    | some x => 1 :: c.write x
  read
    | [] => .error .endOfBytes
    | b :: rest =>
      if b = 0 then .ok (none, rest)
      else if b = 1 then
        match c.read rest with
        | .error fault => .error fault
        | .ok (x, rest) => .ok (some x, rest)
      else .error .badOption

theorem faithful_option {c : Codec α} (h : c.Faithful) : (option c).Faithful := by
  intro x rest small
  cases x with
  | none => rfl
  | some x =>
    have inner : (c.write x).length < UInt64.size := by
      simp only [option, List.length_cons] at small; omega
    simp [option, h x rest inner]

/-- Two values, one after the other. -/
def pair (c : Codec α) (d : Codec β) : Codec (α × β) where
  write p := c.write p.1 ++ d.write p.2
  read bytes :=
    match c.read bytes with
    | .error fault => .error fault
    | .ok (x, rest) =>
      match d.read rest with
      | .error fault => .error fault
      | .ok (y, rest) => .ok ((x, y), rest)

theorem faithful_pair {c : Codec α} {d : Codec β} (hc : c.Faithful) (hd : d.Faithful) :
    (pair c d).Faithful := by
  intro p rest small
  simp only [pair, List.length_append] at small
  simp only [pair, List.append_assoc, hc p.1 _ (by omega), hd p.2 _ (by omega)]

/-- A codec of values that are in one-to-one correspondence with others. -/
def imap (c : Codec α) (forth : α → β) (back : β → α) : Codec β where
  write x := c.write (back x)
  read bytes := (c.read bytes).map fun (x, rest) => (forth x, rest)

theorem faithful_imap {c : Codec α} (h : c.Faithful) {forth : α → β} {back : β → α}
    (inverse : ∀ x, forth (back x) = x) : (imap c forth back).Faithful := by
  intro x rest small
  simp only [imap] at small ⊢
  simp [h _ rest small, Except.map, inverse]

/-- The values of one after another, `count` of them. -/
def readMany (c : Codec α) (count : Nat) (bytes : Bytes) : Except CodecFault (List α × Bytes) :=
  match count with
  | 0 => .ok ([], bytes)
  | count + 1 =>
    match c.read bytes with
    | .error fault => .error fault
    | .ok (x, rest) =>
      match readMany c count rest with
      | .error fault => .error fault
      | .ok (xs, rest) => .ok (x :: xs, rest)

theorem readMany_flatMap {c : Codec α} (h : c.Faithful) (xs : List α) (rest : Bytes)
    (small : (xs.flatMap c.write).length < UInt64.size) :
    readMany c xs.length (xs.flatMap c.write ++ rest) = .ok (xs, rest) := by
  induction xs with
  | nil => rfl
  | cons x xs ih =>
    simp only [List.flatMap_cons, List.length_append] at small
    simp [readMany, List.append_assoc, h x _ (by omega), ih (by omega)]

/-- Lists, after their length. -/
def list (c : Codec α) : Codec (List α) where
  write xs := length.write xs.length ++ xs.flatMap c.write
  read bytes :=
    match length.read bytes with
    | .error fault => .error fault
    | .ok (n, rest) => readMany c n rest

/-- Every value takes some byte. -/
def Solid (c : Codec α) : Prop :=
  ∀ x, 0 < (c.write x).length

theorem length_le_flatMap {c : Codec α} (h : c.Solid) (xs : List α) :
    xs.length ≤ (xs.flatMap c.write).length := by
  induction xs with
  | nil => simp
  | cons x xs ih =>
    have := h x
    simp only [List.flatMap_cons, List.length_append, List.length_cons]
    omega

theorem faithful_list {c : Codec α} (h : c.Faithful) (solid : c.Solid) : (list c).Faithful := by
  intro xs rest small
  simp only [list, List.length_append] at small
  have count := length_le_flatMap solid xs
  simp only [list, List.append_assoc, read_length xs.length _ (by omega)]
  exact readMany_flatMap h xs rest (by omega)

/-- One of finitely many names, written as its place in the list. -/
def tag [DecidableEq α] (values : List α) : Codec α where
  write x := writeGroups 5 (values.idxOf x)
  read bytes :=
    match readGroups 5 15 bytes with
    | .error fault => .error fault
    | .ok (n, rest) =>
      match values[n]? with
      | none => .error .unknownTag
      | some x => .ok (x, rest)

theorem faithful_tag [DecidableEq α] {values : List α} (all : ∀ x, x ∈ values)
    (few : values.length ≤ UInt32.size) : (tag values).Faithful := by
  intro x rest _
  have place := List.idxOf_lt_length_of_mem (all x)
  have bound : values.idxOf x < capacity 4 15 := Nat.lt_of_lt_of_le place few
  simp [tag, readGroups_writeGroups 4 15 (values.idxOf x) rest bound (by omega), place]

end Codec

end ConfigReplica
