import ConfigReplica.Bytes

/-!
# One-time sums

The authentication tag of a sealed message: the message is cut into blocks of 16 bytes, each read as
a number with a set bit above it, and the numbers are the coefficients of a polynomial that is
evaluated at a secret point modulo `2 ^ 130 - 5` (Poly1305). The key must not be used twice.
-/

namespace ConfigReplica.Seal.OneTimeSum

/-- The modulus. -/
def modulus : Nat := (1 <<< 130) - 5

/-- The bits that the secret point may have. -/
def pointMask : Nat := 0x0ffffffc0ffffffc0ffffffc0fffffff

/-- Evaluates `count` blocks of a message on top of `sum`. -/
def evaluate (point : Nat) : (count sum : Nat) → Bytes → Nat
  | 0, sum, _ => sum
  | count + 1, sum, message =>
    let block := message.take 16
    let term := Bytes.ofLittleEndian block + (1 <<< (8 * block.length))
    evaluate point count ((sum + term) * point % modulus) (message.drop 16)

/-- The tag of a message under a key of 32 bytes, 16 bytes. -/
def tag (key message : Bytes) : Bytes :=
  let point := Bytes.ofLittleEndian (key.take 16) &&& pointMask
  let mask := Bytes.ofLittleEndian (key.drop 16)
  Bytes.littleEndian 16 (evaluate point ((message.length + 15) / 16) 0 message + mask)

@[simp] theorem length_tag (key message : Bytes) : (tag key message).length = 16 := by
  simp [tag]

end ConfigReplica.Seal.OneTimeSum
