import ConfigReplica.Codec.Dict

/-!
# Entries

An entry is what one key of a collection holds: the time and the replica of its last write, and the
value that was written, or none where the write was a removal. Of two entries for one key the greater
one wins, by time, then replica, then value, so every replica comes to the same choice
(`Entry.winsOver`).
-/

namespace ConfigReplica.Config

/-- What a key holds. -/
structure Entry where
  timestamp : Int64
  origin : UInt64
  value : Option String
  deriving DecidableEq, Repr

namespace Entry

/-- Entries are ordered by time, then replica, then value; a removal comes before every value. -/
def order : Entry → Entry → Ordering :=
  compareLex (compareOn Entry.timestamp)
    (compareLex (compareOn Entry.origin) (compareOn Entry.value))

instance : Ord Entry := ⟨order⟩

instance : Std.TransOrd Entry :=
  inferInstanceAs (Std.TransCmp (compareLex (compareOn Entry.timestamp)
    (compareLex (compareOn Entry.origin) (compareOn Entry.value))))

instance : Std.LawfulEqOrd Entry where
  eq_of_compare {a b} h := by
    obtain ⟨timestamp, h⟩ := Ordering.then_eq_eq.mp h
    obtain ⟨origin, value⟩ := Ordering.then_eq_eq.mp h
    cases a
    cases b
    simp only [compareOn, Std.compare_eq_iff_eq] at timestamp origin value
    simp [timestamp, origin, value]

/-- Whether an entry replaces another one. -/
def winsOver (a b : Entry) : Bool :=
  compare a b == .gt

/-- Whether the entry marks a removal. -/
def isTombstone (e : Entry) : Bool :=
  e.value.isNone

/-- No entry replaces itself. -/
@[simp] theorem winsOver_self (a : Entry) : a.winsOver a = false := by
  simp [winsOver]

/-- Entries in frames: time, replica, value. -/
def codec : Codec Entry :=
  Codec.imap (Codec.pair Codec.int (Codec.pair Codec.word (Codec.option Codec.text)))
    (fun (timestamp, origin, value) => { timestamp, origin, value })
    (fun e => (e.timestamp, e.origin, e.value))

theorem faithful_codec : codec.Faithful :=
  Codec.faithful_imap
    (Codec.faithful_pair Codec.faithful_int
      (Codec.faithful_pair Codec.faithful_word (Codec.faithful_option Codec.faithful_text)))
    (fun _ => rfl)

end Entry

end ConfigReplica.Config
