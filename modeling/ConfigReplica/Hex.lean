import ConfigReplica.Bytes
import ConfigReplica.Text.Quoted

/-!
# Hexadecimal text

Bytes are shown as two hexadecimal digits each, in lower case (`encode`); digits of either case are
read (`decode`). A text of an odd number of bytes is refused before its digits are looked at, and
otherwise the first byte that is no digit is named by its position.
-/

namespace ConfigReplica.Hex

/-- Why a text is not hexadecimal. -/
inductive Fault where
  /-- The length is odd. -/
  | oddLength
  /-- The byte at this position is no digit. -/
  | badDigit (byte : UInt8) (position : Nat)
  deriving DecidableEq, Repr

/-- The wording of a fault. -/
def Fault.message : Fault → String
  | .oddLength => "Odd number of digits"
  | .badDigit byte position =>
    s!"Invalid character {Text.quotedChar (Char.ofNat byte.toNat)} at position {position}"

/-- The digit of a number below 16. -/
def digit (n : Nat) : Char :=
  Nat.digitChar n

/-- The value of a digit of either case. -/
def value? (c : Char) : Option Nat :=
  if '0' ≤ c ∧ c ≤ '9' then some (c.toNat - '0'.toNat)
  else if 'a' ≤ c ∧ c ≤ 'f' then some (c.toNat - 'a'.toNat + 10)
  else if 'A' ≤ c ∧ c ≤ 'F' then some (c.toNat - 'A'.toNat + 10)
  else none

/-- The value of a byte read as a digit. -/
def byteValue? (byte : UInt8) : Option Nat :=
  value? (Char.ofNat byte.toNat)

/-- The digits of a byte string. -/
def encodeChars (bytes : Bytes) : List Char :=
  bytes.flatMap fun b => [digit (b.toNat / 16), digit (b.toNat % 16)]

/-- A byte string as text. -/
def encode (bytes : Bytes) : String :=
  String.ofList (encodeChars bytes)

/-- The bytes that pairs of digits stand for; `position` counts the bytes of text before. -/
def decodePairs (position : Nat) : Bytes → Except Fault Bytes
  | [] => .ok []
  | [_] => .error .oddLength
  | high :: low :: rest =>
    match byteValue? high, byteValue? low with
    | none, _ => .error (.badDigit high position)
    | _, none => .error (.badDigit low (position + 1))
    | some h, some l =>
      match decodePairs (position + 2) rest with
      | .error fault => .error fault
      | .ok bytes => .ok (UInt8.ofNat (h * 16 + l) :: bytes)

/-- The bytes that a text stands for. -/
def decode (text : String) : Except Fault Bytes :=
  let bytes := Bytes.utf8 text
  if bytes.length % 2 = 1 then .error .oddLength else decodePairs 0 bytes

end ConfigReplica.Hex
