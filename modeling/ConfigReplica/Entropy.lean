import ConfigReplica.Bytes

/-!
# Random draws

Random numbers are drawn from a stream that is fixed in advance, so that every operation is a
function of its inputs. Draws of words and draws of byte strings are counted separately; nothing is
assumed about what they give.
-/

namespace ConfigReplica

/-- Two streams of random values, and how many were drawn from each. -/
structure Entropy where
  wordAt : Nat → UInt64
  byteAt : Nat → Nat → UInt8
  words : Nat := 0
  blocks : Nat := 0

namespace Entropy

/-- Streams of the word zero and of one byte. -/
def constant (byte : UInt8) : Entropy where
  wordAt _ := 0
  byteAt _ _ := byte

/-- Draws a word. -/
def word (e : Entropy) : UInt64 × Entropy :=
  (e.wordAt e.words, { e with words := e.words + 1 })

/-- Draws `count` bytes. -/
def block (e : Entropy) (count : Nat) : Vector UInt8 count × Entropy :=
  (Vector.ofFn fun (i : Fin count) => e.byteAt e.blocks i.val, { e with blocks := e.blocks + 1 })

end Entropy

end ConfigReplica
