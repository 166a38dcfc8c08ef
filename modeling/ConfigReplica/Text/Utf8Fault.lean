import ConfigReplica.Decimal.Digits
import ConfigReplica.Bytes

/-!
# Where bytes stop being UTF-8

A byte string that is no UTF-8 text has a first place where no character can be read
(`Utf8Fault.find?`): either the bytes from there begin a character and end too early, or some of them,
one to three, begin one that does not go on.
-/

namespace ConfigReplica.Text

/-- Where and how a byte string is no text. -/
structure Utf8Fault where
  /-- The number of bytes before. -/
  position : Nat
  /-- The number of bytes that begin no character; nothing where the end came too early. -/
  length : Option Nat
  deriving DecidableEq, Repr

namespace Utf8Fault

/-- The wording of a fault. -/
def message (f : Utf8Fault) : String :=
  match f.length with
  | some length =>
    "invalid utf-8 sequence of " ++ Decimal.ofNat length ++ " bytes from index " ++
      Decimal.ofNat f.position
  | none => "incomplete utf-8 byte sequence from index " ++ Decimal.ofNat f.position

/-- The ranges in which the bytes after a first byte lie, or nothing where no character begins with
that byte. -/
def tailRanges? (first : UInt8) : Option (List (UInt8 × UInt8)) :=
  if first < 0x80 then some []
  else if first < 0xC2 then none
  else if first < 0xE0 then some [(0x80, 0xBF)]
  else if first = 0xE0 then some [(0xA0, 0xBF), (0x80, 0xBF)]
  else if first = 0xED then some [(0x80, 0x9F), (0x80, 0xBF)]
  else if first < 0xF0 then some [(0x80, 0xBF), (0x80, 0xBF)]
  else if first = 0xF0 then some [(0x90, 0xBF), (0x80, 0xBF), (0x80, 0xBF)]
  else if first < 0xF4 then some [(0x80, 0xBF), (0x80, 0xBF), (0x80, 0xBF)]
  else if first = 0xF4 then some [(0x80, 0x8F), (0x80, 0xBF), (0x80, 0xBF)]
  else none

/-- How many bytes of a character, the first one included, are read before one is wrong; nothing where
the bytes end first. `none` outside means that all are right. -/
def tailFault? (read : Nat) : List (UInt8 × UInt8) → Bytes → Option (Option Nat)
  | [], _ => none
  | _ :: _, [] => some none
  | (low, high) :: ranges, byte :: rest =>
    if low ≤ byte ∧ byte ≤ high then tailFault? (read + 1) ranges rest else some (some read)

/-- The first fault of a byte string, whose bytes are counted from `position`; the first `skip` bytes
belong to a character that was read. -/
def findFrom? (position : Nat) : (skip : Nat) → Bytes → Option Utf8Fault
  | _, [] => none
  | skip + 1, _ :: rest => findFrom? (position + 1) skip rest
  | 0, first :: rest =>
    match tailRanges? first with
    | none => some { position, length := some 1 }
    | some ranges =>
      match tailFault? 1 ranges rest with
      | some length => some { position, length }
      | none => findFrom? (position + 1) ranges.length rest

/-- The first fault of a byte string. -/
def find? (bytes : Bytes) : Option Utf8Fault :=
  findFrom? 0 0 bytes

end Utf8Fault

end ConfigReplica.Text
