/-!
# Tables of words

The sealing of messages and the tree hash mix a table of four by four words of 32 bits: first its
columns, and then its diagonals, which are the columns of the table whose rows were moved to the left
by zero, one, two and three places. Both are reached with `Block.update`, by how far a row is moved
against the one above it.
-/

namespace ConfigReplica

/-- The sixteen words of a table, row by row. -/
abbrev Block := Vector UInt32 16

/-- One word of each row. -/
structure Column where
  a : UInt32
  b : UInt32
  c : UInt32
  d : UInt32
  deriving DecidableEq, Repr

namespace Block

/-- The place of a word in the table, by its row and by its column, which is counted around. -/
def place (row column : Nat) : Fin 16 :=
  ⟨4 * (row % 4) + column % 4, by omega⟩

/-- Changes the words at four places, from the first row to the last, each `shift` columns to the
right of the one above it. -/
def update (s : Block) (shift column : Nat) (f : Column → Column) : Block :=
  let a := place 0 column
  let b := place 1 (column + shift)
  let c := place 2 (column + 2 * shift)
  let d := place 3 (column + 3 * shift)
  let after := f { a := s[a], b := s[b], c := s[c], d := s[d] }
  (((s.set a after.a).set b after.b).set c after.c).set d after.d

end Block

end ConfigReplica
