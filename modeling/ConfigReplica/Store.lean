import ConfigReplica.Codec.Dict
import ConfigReplica.Error

/-!
# The store

What outlives a session is kept in tables of rows, each a byte string under a text key. A step on the
store may be refused, whatever the step; which steps are is not known in advance, so the store holds
an arbitrary decision about them (`Store.fault`). A refused step leaves every row as it was, and all
others do what they say (`Store.row?_insert`, `Store.row?_erase`).
-/

namespace ConfigReplica

/-- The tables of the store. -/
inductive Table where
  | configs
  | changeWatermarks
  | nodePool
  | onionPaths
  | swarms
  | lastHashes
  | receivedHashes
  | accountData
  deriving DecidableEq, Repr

namespace Table

/-- All tables. -/
def all : List Table :=
  [configs, changeWatermarks, nodePool, onionPaths, swarms, lastHashes, receivedHashes, accountData]

/-- The name of a table. -/
def name : Table → String
  | configs => "configs"
  | changeWatermarks => "change_watermarks"
  | nodePool => "snode_pool"
  | onionPaths => "onion_paths"
  | swarms => "swarms"
  | lastHashes => "last_message_hashes"
  | receivedHashes => "received_message_hashes"
  | accountData => "meta"

/-- The table with this name. -/
def ofName? (name : String) : Option Table :=
  all.find? fun table => table.name == name

/-- The place of a table among all of them. -/
def rank : Table → Nat
  | configs => 0
  | changeWatermarks => 1
  | nodePool => 2
  | onionPaths => 3
  | swarms => 4
  | lastHashes => 5
  | receivedHashes => 6
  | accountData => 7

instance : Ord Table := ⟨compareOn rank⟩

instance : Std.TransOrd Table :=
  inferInstanceAs (Std.TransCmp (compareOn rank))

instance : Std.LawfulEqOrd Table where
  eq_of_compare {a b} h := by
    have same : a.rank = b.rank := Std.compare_eq_iff_eq.mp h
    cases a <;> cases b <;> first | rfl | cases same

end Table

/-- The place of a row. -/
structure Cell where
  table : Table
  key : String
  deriving DecidableEq, Repr

namespace Cell

/-- Places are ordered by table, then key. -/
def order : Cell → Cell → Ordering :=
  compareLex (compareOn Cell.table) (compareOn Cell.key)

instance : Ord Cell := ⟨order⟩

instance : Std.TransOrd Cell :=
  inferInstanceAs (Std.TransCmp (compareLex (compareOn Cell.table) (compareOn Cell.key)))

instance : Std.LawfulEqOrd Cell where
  eq_of_compare {a b} h := by
    obtain ⟨table, key⟩ := Ordering.then_eq_eq.mp h
    cases a
    cases b
    simp only [compareOn, Std.compare_eq_iff_eq] at table key
    simp [table, key]

end Cell

/-- What a step on the store does. -/
inductive Access where
  | read (cell : Cell)
  | write (cell : Cell)
  | delete (cell : Cell)
  deriving DecidableEq, Repr

/-- The rows of all tables, the steps so far, the latest first, and a decision which steps are
refused and with which text. -/
structure Store where
  rows : Std.ExtTreeMap Cell Bytes := ∅
  past : List Access := []
  /-- The text with which a step is refused after these steps, if it is. -/
  fault : List Access → Access → Option String := fun _ _ => none

namespace Store

/-- The row at a place. -/
def row? (s : Store) (cell : Cell) : Option Bytes :=
  s.rows[cell]?

/-- The store with another row at a place. -/
def insert (s : Store) (cell : Cell) (bytes : Bytes) : Store :=
  { s with rows := s.rows.insert cell bytes }

/-- The store without the row at a place. -/
def erase (s : Store) (cell : Cell) : Store :=
  { s with rows := s.rows.erase cell }

/-- The rows of a table, in the order of their keys. -/
def table (s : Store) (table : Table) : List (String × Bytes) :=
  (s.rows.toList.filter fun (cell, _) => cell.table == table).map fun (cell, bytes) =>
    (cell.key, bytes)

/-- A new row is found at its place and nowhere else. -/
@[simp] theorem row?_insert (s : Store) (cell other : Cell) (bytes : Bytes) :
    (s.insert cell bytes).row? other = if other = cell then some bytes else s.row? other := by
  simp only [row?, insert, Std.ExtTreeMap.getElem?_insert, Std.compare_eq_iff_eq]
  by_cases same : other = cell
  · simp [same]
  · simp [same, Ne.symm same]

/-- An erased row is gone, and all others are kept. -/
@[simp] theorem row?_erase (s : Store) (cell other : Cell) :
    (s.erase cell).row? other = if other = cell then none else s.row? other := by
  simp only [row?, erase, Std.ExtTreeMap.getElem?_erase, Std.compare_eq_iff_eq]
  by_cases same : other = cell
  · simp [same]
  · simp [same, Ne.symm same]

end Store

/-- An action on the store. What it did before it failed stays done. -/
abbrev StoreM := EStateM Error Store

namespace StoreM

variable {α : Type}

/-- Takes a step, unless it is refused. -/
def access (step : Access) : StoreM Unit := fun s =>
  match s.fault s.past step with
  | none => .ok () { s with past := step :: s.past }
  | some text => .error (.storage text) { s with past := step :: s.past }

/-- The row at a place. -/
def get? (table : Table) (key : String) : StoreM (Option Bytes) := do
  access (.read { table, key })
  let s ← get
  pure (s.row? { table, key })

/-- Puts a row at a place. -/
def put (table : Table) (key : String) (bytes : Bytes) : StoreM Unit := do
  access (.write { table, key })
  modify fun s => s.insert { table, key } bytes

/-- Removes the row at a place, if there is one. -/
def delete (table : Table) (key : String) : StoreM Unit := do
  access (.delete { table, key })
  modify fun s => s.erase { table, key }

/-- Reads a row that holds a value. -/
def load (codec : Codec α) (table : Table) (key : String) : StoreM (Option α) := do
  match ← get? table key with
  | none => pure none
  | some bytes =>
    match codec.decode bytes with
    | .ok value => pure (some value)
    | .error fault => throw (.data (.frame fault))

/-- Puts a value into a row. -/
def save (codec : Codec α) (table : Table) (key : String) (value : α) : StoreM Unit :=
  put table key (codec.write value)

end StoreM

end ConfigReplica
