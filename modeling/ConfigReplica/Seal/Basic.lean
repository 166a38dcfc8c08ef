import ConfigReplica.Seal.KeyStream
import ConfigReplica.Seal.OneTimeSum

/-!
# Sealed messages

A message is sealed under a key and a nonce together with a label that is not part of it: it is
covered by the key stream, and a tag over label and covered text is appended (`close`). `open?`
checks the tag and uncovers. What was sealed opens under the same key, nonce and label
(`open?_close`).
-/

namespace ConfigReplica.Seal

/-- Zeros up to a multiple of 16 bytes. -/
def padding (bytes : Bytes) : Bytes :=
  List.replicate ((16 - bytes.length % 16) % 16) 0

/-- The tag of a covered text and its label. -/
def tagOf (key nonce label covered : Bytes) : Bytes :=
  OneTimeSum.tag ((KeyStream.block key nonce 0).take 32)
    (label ++ padding label ++ covered ++ padding covered ++
      Bytes.littleEndian 8 label.length ++ Bytes.littleEndian 8 covered.length)

/-- Seals a message: the covered text, then the tag. -/
def close (key nonce label message : Bytes) : Bytes :=
  let covered := KeyStream.cover key nonce message
  covered ++ tagOf key nonce label covered

/-- The message in a sealed text, if the tag is right. -/
def open? (key nonce label sealed : Bytes) : Option Bytes :=
  let size := sealed.length - 16
  let covered := sealed.take size
  if 16 ≤ sealed.length ∧ sealed.drop size = tagOf key nonce label covered then
    some (KeyStream.cover key nonce covered)
  else none

/-- What was sealed opens under the same key, nonce and label. -/
@[simp] theorem open?_close (key nonce label message : Bytes) :
    open? key nonce label (close key nonce label message) = some message := by
  have size : (close key nonce label message).length
      = (KeyStream.cover key nonce message).length + 16 := by
    simp [close, tagOf]
  simp only [open?, size, Nat.add_sub_cancel]
  simp [close]

end ConfigReplica.Seal
