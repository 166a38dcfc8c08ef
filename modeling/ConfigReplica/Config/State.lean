import ConfigReplica.Config.Entry
import ConfigReplica.Digest.TreeHash
import ConfigReplica.Hex

/-!
# Mergeable states

A state maps collections and keys to entries. Writing an entry keeps the greater of the old and the
new one (`State.put`), and joining two states does so for every key (`State.join`); removals are
entries too, so a removal wins over an older value wherever it arrives. What is visible of a state
are the values of the entries that are no removals (`State.get?`).
-/

namespace ConfigReplica.Config

/-- The entries of an object, by collection and key. -/
structure State where
  collections : Dict (Dict Entry)
  deriving DecidableEq

namespace State

/-- The state without entries. -/
def empty : State := ⟨∅⟩

instance : Inhabited State := ⟨empty⟩

/-- The entries of a collection. -/
def collection (s : State) (name : String) : Dict Entry :=
  s.collections.getD name ∅

/-- The entry of a key. -/
def find? (s : State) (collection key : String) : Option Entry :=
  (s.collection collection)[key]?

/-- The visible value of a key. -/
def get? (s : State) (collection key : String) : Option String :=
  (s.find? collection key).bind Entry.value

/-- The state in which a key holds an entry, whatever it held before. -/
def write (s : State) (collection key : String) (e : Entry) : State :=
  ⟨s.collections.insert collection ((s.collection collection).insert key e)⟩

/-- Whether an entry would become the entry of its key. -/
def admits (s : State) (collection key : String) (e : Entry) : Bool :=
  match s.find? collection key with
  | some old => e.winsOver old
  | none => true

/-- Writes an entry, unless the key holds one that wins over it. -/
def put (s : State) (collection key : String) (e : Entry) : State :=
  if s.admits collection key e then s.write collection key e else s

/-- Whether writing an entry changes the visible value of its key. -/
def reveals (s : State) (collection key : String) (e : Entry) : Bool :=
  s.admits collection key e && s.get? collection key != e.value

/-- All entries, in the order of their collections and keys. -/
def entries (s : State) : List (String × String × Entry) :=
  s.collections.toList.flatMap fun (name, keys) => keys.toList.map fun (key, e) => (name, key, e)

/-- Takes over every entry of another state that wins. -/
def join (s t : State) : State :=
  t.entries.foldl (fun s (collection, key, e) => s.put collection key e) s

/-- Whether joining changes some visible value. -/
def joinReveals (s t : State) : Bool :=
  t.entries.any fun (collection, key, e) => s.reveals collection key e

/-- The visible values of a collection, in the order of their keys. -/
def live (s : State) (collection : String) : List (String × String) :=
  (s.collection collection).toList.filterMap fun (key, e) => e.value.map fun value => (key, value)

/-- The number of visible values. -/
def liveCount (s : State) : Nat :=
  s.entries.countP fun (_, _, e) => !e.isTombstone

/-- The names of the collections. -/
def names (s : State) : List String :=
  s.collections.keys

/-- States in frames. -/
def codec : Codec State :=
  Codec.imap (Codec.dict (Codec.dict Entry.codec)) State.mk State.collections

theorem faithful_codec : codec.Faithful :=
  Codec.faithful_imap (Codec.faithful_dict (Codec.faithful_dict Entry.faithful_codec))
    (fun _ => rfl)

/-- The encoding of a state. -/
def bytes (s : State) : Bytes :=
  codec.write s

/-- The hash of a state. -/
def digest (s : State) : Bytes :=
  Digest.TreeHash.hash s.bytes

/-- The hash of a state as text. -/
def hash (s : State) : String :=
  Hex.encode s.digest

/-! ### Views -/

@[simp] theorem collection_empty (name : String) : empty.collection name = ∅ := by
  simp [collection, empty]

@[simp] theorem find?_empty (collection key : String) : empty.find? collection key = none := by
  simp [find?]

/-- A written entry is found under its key and nowhere else. -/
@[simp] theorem find?_write (s : State) (collection key collection' key' : String) (e : Entry) :
    (s.write collection key e).find? collection' key' =
      if collection' = collection ∧ key' = key then some e else s.find? collection' key' := by
  simp only [find?, State.collection, write, Std.ExtTreeMap.getD_insert]
  by_cases hc : collection' = collection
  · subst hc
    simp only [Std.ReflCmp.compare_self, if_true, true_and, Std.ExtTreeMap.getElem?_insert]
    by_cases hk : key' = key
    · subst hk; simp
    · have : compare key key' ≠ .eq := fun h => hk (Std.LawfulEqOrd.eq_of_compare h).symm
      simp [this, hk]
  · have : compare collection collection' ≠ .eq :=
      fun h => hc (Std.LawfulEqOrd.eq_of_compare h).symm
    simp [this, hc]

/-- The greater entry is found under the key of a write, and every other key keeps its own. -/
theorem find?_put (s : State) (collection key collection' key' : String) (e : Entry) :
    (s.put collection key e).find? collection' key' =
      if collection' = collection ∧ key' = key ∧ s.admits collection key e then some e
      else s.find? collection' key' := by
  unfold put
  split <;> simp_all

end State

end ConfigReplica.Config
