/-!
# Byte strings

Everything that is stored, hashed, compressed or sent is a list of bytes. This module fixes that
representation and the two conversions the whole library shares:

- text to bytes and back, in UTF-8 (`utf8`, `ofUtf8?`, `ofUtf8?_utf8`);
- unsigned numbers to bytes and back, lowest byte first (`littleEndian`, `ofLittleEndian`).
-/

namespace ConfigReplica

/-- A byte string, in order. -/
abbrev Bytes := List UInt8

namespace Bytes

/-- The UTF-8 encoding of a text. -/
def utf8 (text : String) : Bytes :=
  text.toUTF8.data.toList

/-- The text that these bytes encode in UTF-8, if they encode one. -/
def ofUtf8? (bytes : Bytes) : Option String :=
  String.fromUTF8? ⟨bytes.toArray⟩

/-- Text survives. Reading the UTF-8 encoding of a text gives the text. -/
@[simp] theorem ofUtf8?_utf8 (text : String) : ofUtf8? (utf8 text) = some text := by
  have same : (⟨text.toUTF8.data.toList.toArray⟩ : ByteArray) = text.toUTF8 := by simp
  simp only [ofUtf8?, utf8, same, String.fromUTF8?]
  split
  · rfl
  · rename_i bad
    exact absurd text.isValidUTF8 bad

/-- The `count` lowest bytes of a number, lowest first. -/
def littleEndian (count : Nat) (value : Nat) : Bytes :=
  match count with
  | 0 => []
  | count + 1 => UInt8.ofNat (value % 256) :: littleEndian count (value / 256)

/-- The number whose bytes these are, lowest first. -/
def ofLittleEndian : Bytes → Nat
  | [] => 0
  | b :: rest => b.toNat + 256 * ofLittleEndian rest

@[simp] theorem length_littleEndian (count value : Nat) :
    (littleEndian count value).length = count := by
  induction count generalizing value with
  | zero => rfl
  | succ count ih => simp [littleEndian, ih]

/-- The bytes of a number give back the number, up to the width that was written. -/
theorem ofLittleEndian_littleEndian (count value : Nat) :
    ofLittleEndian (littleEndian count value) = value % Nat.pow 256 count := by
  rw [Nat.pow_eq]
  induction count generalizing value with
  | zero => simp [littleEndian, ofLittleEndian, Nat.mod_one]
  | succ count ih =>
    simp only [littleEndian, ofLittleEndian, ih, UInt8.toNat_ofNat']
    rw [show 2 ^ 8 = 256 from rfl, Nat.mod_mod, Nat.pow_succ, Nat.mul_comm (256 ^ count),
      Nat.mod_mul]

end Bytes

end ConfigReplica
