import ConfigReplica.Proofs.Edit.Plan

/-!
# Writes that take effect

A local write has to win over what it replaces, wherever the two meet. What it replaces
may carry a time far ahead of the clock here, so a write is stamped with the time of the
edit or with the first time after the replaced one, whichever is later (`Draft.stamp`).
Origins and values then play no part: the write is later, and that is all that the order
of entries looks at first (`Draft.lt_entry`). It follows that a write is always admitted,
and that it is the one that is found where states are joined (`State.find?_join_of_lt`).

The one thing that is asked for is a time after the replaced one (`Draft.HasRoom`). After the
greatest time comes the least, so without room a write loses to what it was to replace, and the
key keeps what it had (`Draft.put_of_full`).
-/

namespace ConfigReplica

/-- Every time but the greatest has one after it. -/
theorem lt_next {time : Int64} (below : time < Int64.maxValue) : time < time + 1 := by
  rw [Int64.lt_iff_toInt_lt] at below ⊢
  have top : Int64.maxValue.toInt = 2 ^ 63 - 1 := by decide
  have bottom := time.le_toInt
  have one : (1 : Int64).toInt = 1 := by decide
  rw [top] at below
  rw [Int64.toInt_add, one, Int.bmod_eq_of_le (by omega) (by omega)]
  omega

namespace Config

/-- The later entry is the greater one, whichever replica wrote what. -/
theorem Entry.lt_of_timestamp_lt {a b : Entry} (later : a.timestamp < b.timestamp) : a < b := by
  have first : compareOn Entry.timestamp a b = .lt := Std.compare_eq_lt.mpr later
  change (compareOn Entry.timestamp a b).then _ = .lt
  rw [first]
  rfl

/-- Where two states are joined, the greater of their entries is found. -/
theorem State.find?_join_of_lt {s t : State} {collection key : String} {old e : Entry}
    (ours : s.find? collection key = some old) (theirs : t.find? collection key = some e)
    (below : old < e) :
    (s.join t).find? collection key = some e ∧ (t.join s).find? collection key = some e := by
  have wins : e.winsOver old = true := Entry.winsOver_iff.mpr below
  have loses : ¬ old.winsOver e = true := fun back => lt_asymm below (Entry.winsOver_iff.mp back)
  rw [find?_join, find?_join, ours, theirs]
  simp [admits, ours, theirs, wins, loses]

namespace Draft

variable {d d' : Draft} {collection key : String} {value : Option String} {old : Entry}

/-- There is a time after the one that the key is stamped with. -/
def HasRoom (d : Draft) (collection key : String) : Prop :=
  ∀ old, d.state.find? collection key = some old → old.timestamp < Int64.maxValue

/-- A write is later than what it replaces. -/
theorem lt_stamp (room : d.HasRoom collection key)
    (found : d.state.find? collection key = some old) :
    old.timestamp < d.stamp collection key := by
  unfold stamp
  rw [found]
  dsimp only
  split
  · exact lt_next (room old found)
  · next behind => exact Int64.not_le.mp behind

/-- A write is no earlier than its edit. -/
theorem le_stamp (room : d.HasRoom collection key) : d.timestamp ≤ d.stamp collection key := by
  unfold stamp
  cases found : d.state.find? collection key with
  | none => exact Int64.le_refl _
  | some old =>
    dsimp only
    split
    · next ahead => exact Int64.le_of_lt (Int64.lt_of_le_of_lt ahead (lt_next (room old found)))
    · exact Int64.le_refl _

/-- The entry of a write is greater than the one that it replaces. -/
theorem lt_entry (room : d.HasRoom collection key)
    (found : d.state.find? collection key = some old) (value : Option String) :
    old < d.entry collection key value :=
  Entry.lt_of_timestamp_lt (lt_stamp room found)

/-- **A write is always admitted.** -/
theorem admits_entry (room : d.HasRoom collection key) (value : Option String) :
    d.state.admits collection key (d.entry collection key value) = true := by
  rw [State.admits_iff]
  rintro ⟨held, found, covered⟩
  exact absurd (lt_entry room found value) (not_lt.mpr covered)

/-- The draft with a write in it. -/
def written (d : Draft) (collection key : String) (value : Option String) : Draft :=
  { d with state := d.state.write collection key (d.entry collection key value) }

/-- A write that shows something new is made. -/
theorem put_of_room (room : d.HasRoom collection key)
    (differs : d.state.get? collection key ≠ value) :
    d.put collection key value = (true, d.written collection key value) := by
  have admitted := admits_entry room value
  have news : d.state.get? collection key ≠ (d.entry collection key value).value := differs
  simp [put, written, State.reveals, State.put, admitted, news]

/-- **The write made an entry that wins**: it carries the origin of the draft and a time no earlier
than the edit. Whatever it replaced is earlier, and wherever a state meets one that holds what was
replaced, it is the new entry that is found in the join of the two. -/
structure Overrules (d : Draft) (collection key : String) (e : Entry) (d' : Draft) : Prop where
  found : d'.state.find? collection key = some e
  origin : e.origin = d.origin
  timely : d.timestamp ≤ e.timestamp
  later : ∀ old, d.state.find? collection key = some old → old.timestamp < e.timestamp
  wins : ∀ old, d.state.find? collection key = some old → e.winsOver old = true ∧
    ∀ s : State, s.find? collection key = some old →
      (s.join d'.state).find? collection key = some e ∧
      (d'.state.join s).find? collection key = some e

/-- **A write took effect**: the key shows what was written, and every other entry is untouched.
A change is reported if the key showed something else before; there is a new entry then, and
nothing happened otherwise. -/
structure Shows (d : Draft) (collection key : String) (value : Option String) (changed : Bool)
    (d' : Draft) : Prop where
  shown : d'.state.get? collection key = value
  changed_iff : changed = true ↔ d'.state.get? collection key ≠ d.state.get? collection key
  overrules : changed = true → ∃ e, d.Overrules collection key e d'
  others : ∀ collection' key', ¬ (collection' = collection ∧ key' = key) →
    d'.state.find? collection' key' = d.state.find? collection' key'
  untouched : changed = false → d' = d
  only : d' = { d with state := d'.state }

/-- The draft made to show a value, and whether it did not show it before. -/
def showing (d : Draft) (collection key : String) (value : Option String) : Bool × Draft :=
  if d.state.get? collection key = value then (false, d)
  else (true, d.written collection key value)

/-- What is not shown yet is written. -/
theorem shows_written (room : d.HasRoom collection key)
    (differs : d.state.get? collection key ≠ value) :
    d.Shows collection key value true (d.written collection key value) := by
  -- the entry is found where it was written, and shows its value
  have found : (d.written collection key value).state.find? collection key =
      some (d.entry collection key value) := by
    rw [written, State.find?_write, if_pos ⟨rfl, rfl⟩]
  have shown : (d.written collection key value).state.get? collection key = value := by
    rw [State.get?, found]
    rfl
  refine ⟨shown, ?_, fun _ => ⟨d.entry collection key value, ?_⟩, ?_, fun no => ?_, rfl⟩
  · exact ⟨fun _ same => differs (same.symm.trans shown), fun _ => rfl⟩
  · refine ⟨found, rfl, le_stamp room, fun old before => lt_stamp room before, ?_⟩
    intro old before
    have below := lt_entry room before value
    exact ⟨Entry.winsOver_iff.mpr below, fun s held => State.find?_join_of_lt held found below⟩
  · intro collection' key' other
    rw [written, State.find?_write, if_neg other]
  · exact absurd no (by decide)

/-- What is shown already needs no write. -/
theorem shows_self (shown : d.state.get? collection key = value) :
    d.Shows collection key value false d where
  shown := shown
  changed_iff := by simp
  overrules no := absurd no (by simp)
  others _ _ _ := rfl
  untouched _ := rfl
  only := rfl

/-- With room, the draft is made to show any value. -/
theorem shows_showing (room : d.HasRoom collection key) (value : Option String) :
    d.Shows collection key value (d.showing collection key value).1
      (d.showing collection key value).2 := by
  unfold showing
  -- nothing is to be done if the key shows the value already
  by_cases same : d.state.get? collection key = value
  · rw [if_pos same]
    exact shows_self same
  · rw [if_neg same]
    exact shows_written room same

end Draft

namespace EditM

variable {d : Draft} {collection key : String}

/-- Keys are set in declared collections, and only if they are not empty. -/
theorem set_refused (refused : d.variant.rule? collection = none ∨ key = "") (json : String) :
    ∃ error, set collection key json d = .error error d := by
  unfold set
  cases declared : d.variant.rule? collection with
  | none => exact ⟨_, rfl⟩
  | some rule =>
    have empty : key = "" := refused.resolve_left (by simp [declared])
    exact ⟨.misuse .emptyKey, by simp [empty]⟩

/-- Keys are removed from declared collections that do not only grow. -/
theorem remove_refused (refused : d.variant.rule? collection ≠ some .lastWriterWins) :
    ∃ error, remove collection key d = .error error d := by
  unfold remove
  cases declared : d.variant.rule? collection with
  | none => exact ⟨_, rfl⟩
  | some rule =>
    cases rule with
    | addOnly => exact ⟨_, rfl⟩
    | lastWriterWins => exact absurd declared refused

/-- Setting a key makes it show the text. -/
theorem set_eq (room : d.HasRoom collection key) {rule : MergeRule}
    (declared : d.variant.rule? collection = some rule) (named : key ≠ "") (json : String) :
    set collection key json d = .ok (d.showing collection key (some json)).1
      (d.showing collection key (some json)).2 := by
  unfold set Draft.showing
  by_cases same : d.state.get? collection key = some json
  · simp [declared, named, same]
  · simp [declared, named, same, Draft.put_of_room room same]

/-- Removing a key makes it show nothing. -/
theorem remove_eq (room : d.HasRoom collection key)
    (removable : d.variant.rule? collection = some .lastWriterWins) :
    remove collection key d = .ok (d.showing collection key none).1
      (d.showing collection key none).2 := by
  unfold remove Draft.showing
  by_cases same : d.state.get? collection key = none
  · simp [removable, same]
  · simp [removable, same, Draft.put_of_room room same]

/-- **Edits take effect.** However far ahead of the clock a key was stamped, as long as there is a
time after it: setting the key shows the text, and removing it shows nothing. Every replica that
meets the write prefers it to what it replaced. Where the schema forbids the write, it fails and
leaves everything as it was. -/
theorem takes_effect (room : d.HasRoom collection key) :
    (∀ json, match set collection key json d with
      | .ok changed d' => d.variant.rule? collection ≠ none ∧ key ≠ "" ∧
          d.Shows collection key (some json) changed d'
      | .error _ d' => (d.variant.rule? collection = none ∨ key = "") ∧ d' = d) ∧
    match remove collection key d with
      | .ok changed d' => d.variant.rule? collection = some .lastWriterWins ∧
          d.Shows collection key none changed d'
      | .error _ d' => d.variant.rule? collection ≠ some .lastWriterWins ∧ d' = d := by
  constructor
  · -- the schema refuses the key or the collection, or the write is made
    intro json
    by_cases refused : d.variant.rule? collection = none ∨ key = ""
    · obtain ⟨error, ran⟩ := set_refused refused json
      rw [ran]
      exact ⟨refused, rfl⟩
    · obtain ⟨undeclared, named⟩ := not_or.mp refused
      obtain ⟨rule, declared⟩ := Option.ne_none_iff_exists'.mp undeclared
      rw [set_eq room declared named]
      exact ⟨undeclared, named, Draft.shows_showing room _⟩
  · by_cases removable : d.variant.rule? collection = some .lastWriterWins
    · rw [remove_eq room removable]
      exact ⟨removable, Draft.shows_showing room _⟩
    · obtain ⟨error, ran⟩ := remove_refused removable
      rw [ran]
      exact ⟨removable, rfl⟩

/-- A replica with the least origin whose clock is behind sets a key that the greatest origin has
removed, and removes one that it has set. -/
theorem takes_effect_behind :
    ∃ (d d' d'' : Draft), d.timestamp = 5 ∧ d.HasRoom "contacts" "x" ∧ d'.HasRoom "contacts" "x" ∧
      d.state.find? "contacts" "x" = some ⟨100, 18446744073709551615, none⟩ ∧
      set "contacts" "x" "1" d = .ok true d' ∧ d.Shows "contacts" "x" (some "1") true d' ∧
      d'.state.find? "contacts" "x" = some ⟨101, 0, some "1"⟩ ∧
      remove "contacts" "x" d' = .ok true d'' ∧ d'.Shows "contacts" "x" none true d'' := by
  let gone : Entry := ⟨100, 18446744073709551615, none⟩
  let d : Draft := {
    variant := .contacts, origin := 0, timestamp := 5
    state := State.empty.write "contacts" "x" gone, entropy := .constant 0 }
  have found : d.state.find? "contacts" "x" = some gone := by decide +kernel
  have room : d.HasRoom "contacts" "x" := by
    intro old held
    obtain rfl := Option.some.inj (found.symm.trans held)
    decide
  let d' := d.written "contacts" "x" (some "1")
  have found' : d'.state.find? "contacts" "x" = some ⟨101, 0, some "1"⟩ := by decide +kernel
  have room' : d'.HasRoom "contacts" "x" := by
    intro old held
    obtain rfl := Option.some.inj (found'.symm.trans held)
    decide
  -- the key shows nothing at first and the text then, so both writes are changes
  have hidden : d.state.get? "contacts" "x" ≠ some "1" := by
    simp [State.get?, found, gone]
  have shown : d'.state.get? "contacts" "x" ≠ none := by
    simp [State.get?, found']
  have set : set "contacts" "x" "1" d = .ok true d' := by
    have declared : d.variant.rule? "contacts" = some .lastWriterWins := rfl
    rw [set_eq room declared (by decide), Draft.showing, if_neg hidden]
  have removed : remove "contacts" "x" d' = .ok true (d'.written "contacts" "x" none) := by
    rw [remove_eq room' rfl, Draft.showing, if_neg shown]
  have first := (takes_effect room).1 "1"
  have second := (takes_effect room').2
  rw [set] at first
  rw [removed] at second
  exact ⟨d, d', _, rfl, room, room', found, set, first.2.2, found', removed, second.2⟩

end EditM

end Config

end ConfigReplica
