import ConfigReplica.Proofs.Json.Lexical

/-!
# Typed JSON is read back

`Shape.decode_encode`: the text of a value is read as that value. It holds of every
shape that can tell its values apart (`Shape.isSound`): members and alternatives have
distinct names, and what is optional is not optional once more, because one null
cannot stand for two things.

A value is followed by the end of the text, by a comma or by a closing bracket
(`Closes`), and a reader has to stop there: `Reads scan write` is the law of one
reader and one writer that the others are built from. Lists and records obey it as
long as their items and members do (`readItems_write`, `Fields.readMembers_write`).

A record is read by a loop that knows all members, in whatever order they come,
while its text is written member by member. The loop is followed down the list of
members by looking at it through an embedding of the members still to come
(`Fields.readMembers_write`): those before them have been read and stay as they are.
-/

namespace ConfigReplica.Json

/-! ### Sound shapes -/

/-- The names of the members. -/
def Fields.names : Fields → List String
  | .done => []
  | .field name _ rest => name :: rest.names

mutual

/-- Different values of the shape have different texts. -/
def Shape.isSound : Shape → Bool
  | .optional shape => shape.absent?.isNone && shape.isSound
  | .vector _ shape => shape.isSound
  | .record _ fields => fields.isSound
  | .choice arms => arms.isSound
  | .text | .flag | .byte | .word | .int => true

/-- No two members have the same name, and each is of a sound shape. -/
def Fields.isSound : Fields → Bool
  | .done => true
  | .field name shape rest => !rest.names.contains name && shape.isSound && rest.isSound

/-- No two alternatives have the same name, and each is of a sound shape. -/
def Arms.isSound : Arms → Bool
  | .done => true
  | .bare name rest => !rest.names.contains name && rest.isSound
  | .carrying name shape rest => !rest.names.contains name && shape.isSound && rest.isSound

end

/-! ### What stands around a value -/

/-- What may follow a value. -/
def Closes (rest : List Char) : Prop :=
  ∀ c cs, rest = c :: cs → c = ',' ∨ c = ']' ∨ c = '\x7d'

/-- The end of the text. -/
theorem closes_nil : Closes [] := by
  rintro c cs ⟨⟩

/-- A comma or a closing bracket. -/
theorem closes_cons {c : Char} (h : c = ',' ∨ c = ']' ∨ c = '\x7d') (cs : List Char) :
    Closes (c :: cs) := by
  rintro c' cs' ⟨⟩
  exact h

/-- Neither of them goes on with a number. -/
theorem Closes.endsNumber {rest : List Char} (h : Closes rest) : EndsNumber rest := by
  rintro c cs rfl
  rcases h c cs rfl with rfl | rfl | rfl <;> decide

/-- What a value other than null starts with. -/
def Opens (c : Char) : Prop :=
  c = '"' ∨ c = 't' ∨ c = 'f' ∨ c = '-' ∨ c = '[' ∨ c = '\x7b' ∨ c.isDigit = true

/-- A digit starts a number. -/
theorem Opens.of_isDigit {c : Char} (h : c.isDigit = true) : Opens c :=
  .inr (.inr (.inr (.inr (.inr (.inr h)))))

/-- None of these is a blank, closes a list or begins null. -/
theorem Opens.spec {c : Char} (h : Opens c) : isBlank c = false ∧ c ≠ ']' ∧ c ≠ 'n' := by
  have digit (d : Char) (other : d.isDigit = false) (hc : c.isDigit = true) : c ≠ d := by
    rintro rfl
    rw [hc] at other
    exact absurd other (by decide)
  rcases h with rfl | rfl | rfl | rfl | rfl | rfl | h
  iterate 6 decide
  refine ⟨?_, digit ']' (by decide) h, digit 'n' (by decide) h⟩
  simp only [isBlank, Bool.or_eq_false_iff, decide_eq_false_iff_not]
  exact ⟨⟨⟨digit _ (by decide) h, digit _ (by decide) h⟩, digit _ (by decide) h⟩,
    digit _ (by decide) h⟩

/-- What is no blank is not passed over. -/
theorem skipBlank_cons {c : Char} (h : isBlank c = false) (cs : List Char) :
    skipBlank (c :: cs) = c :: cs :=
  List.dropWhile_cons_of_neg (by simp [h])

/-- An integer starts with a sign or a digit. -/
theorem signed_cons (n : Int) :
    ∃ c cs, Decimal.signed n = c :: cs ∧ (c = '-' ∨ c.isDigit = true) := by
  unfold Decimal.signed
  split
  · exact ⟨'-', _, rfl, .inl rfl⟩
  · obtain ⟨c, cs, front⟩ := List.exists_cons_of_ne_nil (Decimal.digits_ne_nil n.natAbs)
    refine ⟨c, cs, front, .inr (Decimal.isDigit_of_mem_digits (n := n.natAbs) ?_)⟩
    rw [front]
    exact List.mem_cons_self ..

/-- What is not negative is written without sign. -/
theorem signed_natCast (n : Nat) : Decimal.signed n = Decimal.digits n := by
  unfold Decimal.signed
  rw [if_neg (by omega), Int.natAbs_natCast]

/-- A choice is written as a text or as a record. -/
theorem Arms.write_cons : ∀ (arms : Arms) (value : arms.Value),
    ∃ c cs, arms.write value = c :: cs ∧ Opens c
  | .bare _ _, .inl _ => ⟨'"', _, rfl, .inl rfl⟩
  | .bare _ rest, .inr value => rest.write_cons value
  | .carrying _ _ _, .inl _ =>
    ⟨'\x7b', _, rfl, .inr (.inr (.inr (.inr (.inr (.inl rfl)))))⟩
  | .carrying _ _ rest, .inr value => rest.write_cons value

/-- What is not optional is not written as null. -/
theorem Shape.write_cons_of_absent {shape : Shape} (h : shape.absent? = none)
    (value : shape.Value) : ∃ c cs, shape.write value = c :: cs ∧ Opens c := by
  -- a number starts with a sign or a digit, and all others with a letter or a bracket of their own
  have number (n : Int) : ∃ c cs, Decimal.signed n = c :: cs ∧ Opens c := by
    obtain ⟨c, cs, front, sign | digit⟩ := signed_cons n
    · exact ⟨c, cs, front, .inr (.inr (.inr (.inl sign)))⟩
    · exact ⟨c, cs, front, .of_isDigit digit⟩
  cases shape with
  | text => exact ⟨'"', _, rfl, .inl rfl⟩
  | flag =>
    cases value with
    | true => exact ⟨'t', _, rfl, .inr (.inl rfl)⟩
    | false => exact ⟨'f', _, rfl, .inr (.inr (.inl rfl))⟩
  | byte | word =>
    have front := number value.toNat
    rw [signed_natCast] at front
    exact front
  | int => exact number value.toInt
  | optional shape => exact absurd h (by simp [Shape.absent?])
  | vector count shape => exact ⟨'[', _, rfl, .inr (.inr (.inr (.inr (.inl rfl))))⟩
  | record name fields =>
    exact ⟨'\x7b', _, rfl, .inr (.inr (.inr (.inr (.inr (.inl rfl)))))⟩
  | choice arms => exact arms.write_cons value

/-- No value starts with a blank or closes a list. -/
theorem Shape.write_cons (shape : Shape) (value : shape.Value) :
    ∃ c cs, shape.write value = c :: cs ∧ isBlank c = false ∧ c ≠ ']' := by
  have plain {shape : Shape} (h : shape.absent? = none) (value : shape.Value) :
      ∃ c cs, shape.write value = c :: cs ∧ isBlank c = false ∧ c ≠ ']' := by
    obtain ⟨c, cs, front, opens⟩ := write_cons_of_absent h value
    exact ⟨c, cs, front, opens.spec.1, opens.spec.2.1⟩
  cases shape with
  | optional shape =>
    cases value with
    | none => exact ⟨'n', _, rfl, by decide, by decide⟩
    | some value => exact shape.write_cons value
  | text | flag | byte | word | int | vector | record | choice => exact plain rfl value

/-! ### Readers of plain values -/

/-- **The reader obeys the writer**: it reads what was written and stops there. -/
def Reads {α : Type} (scan : Scanner α) (write : α → List Char) : Prop :=
  ∀ value {rest}, Closes rest → scan (write value ++ rest) = .ok (value, rest)

/-- A text between quotes is read. -/
theorem readText_write : Reads readText writeText := by
  intro value rest _
  unfold writeText readText
  have blank : isBlank '"' = false := by decide
  simp only [List.cons_append, skipBlank_cons blank, List.append_assoc, if_true]
  exact scanText_escape value rest

/-- A truth value is read. -/
theorem readFlag_write : Reads (Shape.read .flag) (Shape.write .flag) := by
  intro value rest _
  cases value <;> rfl

/-- An integer between the bounds of its kind is read. -/
theorem readInteger_write (low high : Int) {n : Int} (wanted : String) (within : low ≤ n ∧ n ≤ high)
    (least : Int64.minValue.toInt ≤ n) (greatest : n ≤ maxWord) {rest : List Char}
    (closes : Closes rest) :
    readInteger low high wanted (Decimal.signed n ++ rest) = .ok (n, rest) := by
  obtain ⟨c, cs, front, sign⟩ := signed_cons n
  have opens : Opens c := by
    rcases sign with sign | digit
    · exact .inr (.inr (.inr (.inl sign)))
    · exact .of_isDigit digit
  have scanned := scanNumber_signed least greatest closes.endsNumber
  -- the reader decides by the first character that a number follows
  unfold readInteger
  rw [front, List.cons_append] at scanned ⊢
  simp only [skipBlank_cons opens.spec.1, if_pos sign, scanned, if_pos within]

/-- A byte is read. -/
theorem readByte_write : Reads (Shape.read .byte) (Shape.write .byte) := by
  intro value rest closes
  have bound := value.toNat_lt
  have read := readInteger_write 0 255 (n := value.toNat) "u8" (by omega)
    (Int.le_trans (by decide) (Int.natCast_nonneg _)) (by simp only [maxWord, UInt64.size]; omega)
    closes
  simp only [Shape.read, Shape.write]
  rw [← signed_natCast, read]
  simp [Except.map]

/-- A word is read. -/
theorem readWord_write : Reads (Shape.read .word) (Shape.write .word) := by
  intro value rest closes
  have bound := value.toNat_lt
  have read := readInteger_write 0 (UInt64.size - 1 : Nat) (n := value.toNat)
    "u64" (by simp only [UInt64.size]; omega) (Int.le_trans (by decide) (Int.natCast_nonneg _))
    (by simp only [maxWord, UInt64.size]; omega) closes
  simp only [Shape.read, Shape.write]
  rw [← signed_natCast, read]
  simp [Except.map]

/-- An integer of 64 bits is read. -/
theorem readInt_write : Reads (Shape.read .int) (Shape.write .int) := by
  intro value rest closes
  have greatest := Int64.toInt_lt value
  have read := readInteger_write Int64.minValue.toInt Int64.maxValue.toInt
    (n := value.toInt) "i64" ⟨value.minValue_le_toInt, value.toInt_le⟩
    value.minValue_le_toInt (by simp only [maxWord, UInt64.size]; omega) closes
  simp only [Shape.read, Shape.write]
  rw [read]
  simp [Except.map]

/-! ### Lists -/

/-- The reader steps over the comma before an item. -/
theorem nextItem_later {c : Char} (blank : isBlank c = false) (item : c ≠ ']') (cs : List Char) :
    nextItem .later (',' :: c :: cs) = .ok (true, c :: cs) := by
  have comma : isBlank ',' = false := by decide
  simp [nextItem, skipBlank_cons comma, skipBlank_cons blank, item]

/-- The first item has no comma before it. -/
theorem nextItem_first {c : Char} (blank : isBlank c = false) (item : c ≠ ']') (cs : List Char) :
    nextItem .first (c :: cs) = .ok (true, c :: cs) := by
  simp [nextItem, skipBlank_cons blank, item]

/-- Items between brackets: the first one, and each other one after a comma. -/
theorem writeItems_cons (item : List Char) (items : List (List Char)) :
    writeItems (item :: items) = '[' :: (item ++ (items.flatMap fun cs => ',' :: cs) ++ [']']) := by
  have joined : ((item :: items).intersperse [',']).flatten =
      item ++ items.flatMap fun cs => ',' :: cs := by
    induction items generalizing item with
    | nil => simp
    | cons next items ih =>
      rw [List.intersperse_cons_cons, List.flatten_cons, List.flatten_cons, ih, List.flatMap_cons]
      rfl
  rw [writeItems, joined]

section Items

variable {α : Type} {scan : Scanner α} {write : α → List Char}

/-- The first item of a list, and the others. -/
theorem exists_first {count : Nat} (values : Vector α (count + 1)) :
    ∃ (value : α) (others : Vector α count), values.toList = value :: others.toList ∧
      values = (#v[value] ++ others).cast (Nat.add_comm 1 count) := by
  obtain ⟨value, others, split⟩ : ∃ value others, values.toList = value :: others :=
    List.exists_cons_of_length_eq_add_one values.length_toList
  have length : others.length = count := by
    have total := values.length_toList
    rw [split, List.length_cons] at total
    exact Nat.succ.inj total
  refine ⟨value, ⟨others.toArray, by simpa using length⟩, by simpa using split, ?_⟩
  exact Vector.toList_inj.mp (by simpa using split)

/-- Items after the first are read as they are written. -/
theorem readItems_later (law : Reads scan write)
    (opens : ∀ value, ∃ c cs, write value = c :: cs ∧ isBlank c = false ∧ c ≠ ']')
    (wanted : String) (before : Nat) {count : Nat} (values : Vector α count) (rest : List Char) :
    readItems scan wanted count (before + 1)
        (((values.toList.map write).flatMap fun cs => ',' :: cs) ++ ']' :: rest) =
      .ok (values, ']' :: rest) := by
  induction count generalizing before with
  | zero =>
    obtain rfl : values = #v[] := Vector.eq_empty
    rfl
  | succ count ih =>
    -- the first of the items is split off, and the others are read by induction
    obtain ⟨value, others, list, rfl⟩ := exists_first values
    obtain ⟨c, cs, front, blank, item⟩ := opens value
    -- the item ends where the next one has its comma, or the list its bracket
    have next := nextItem_later blank item
      (cs ++ (((others.toList.map write).flatMap fun cs => ',' :: cs) ++ ']' :: rest))
    have closes : Closes (((others.toList.map write).flatMap fun cs => ',' :: cs) ++ ']' :: rest) := by
      cases others.toList <;> exact closes_cons (by decide) _
    have scanned := law value closes
    rw [front, List.cons_append] at scanned
    rw [list]
    simp only [List.map_cons, List.flatMap_cons, List.cons_append, List.append_assoc, front] at next ⊢
    unfold readItems
    simp only [Nat.add_one_ne_zero, if_false, next, scanned, ih (before + 1) others]

/-- **Lists are read as they are written**, if their items are. -/
theorem readItems_write (law : Reads scan write)
    (opens : ∀ value, ∃ c cs, write value = c :: cs ∧ isBlank c = false ∧ c ≠ ']')
    (wanted : String) {count : Nat} (values : Vector α count) (rest : List Char) :
    ∃ body, writeItems (values.toList.map write) = '[' :: (body ++ [']']) ∧
      readItems scan wanted count 0 (body ++ ']' :: rest) = .ok (values, ']' :: rest) := by
  cases count with
  | zero =>
    obtain rfl : values = #v[] := Vector.eq_empty
    exact ⟨[], rfl, rfl⟩
  | succ count =>
    obtain ⟨value, others, list, rfl⟩ := exists_first values
    obtain ⟨c, cs, front, blank, item⟩ := opens value
    -- the other items are written with a comma in front, which the first one does not have
    let later := (others.toList.map write).flatMap fun cs => ',' :: cs
    have closes : Closes (later ++ ']' :: rest) := by
      unfold later
      cases others.toList <;> exact closes_cons (by decide) _
    have scanned := law value closes
    refine ⟨write value ++ later, ?_, ?_⟩
    · rw [list, List.map_cons, writeItems_cons]
    · have next := nextItem_first blank item (cs ++ (later ++ ']' :: rest))
      rw [front, List.cons_append] at scanned
      rw [front, List.cons_append, List.cons_append, List.append_assoc]
      unfold readItems
      simp only [if_true, next, scanned, later, readItems_later law opens wanted 0 others rest]

end Items

/-- The bracket that closes a list is the next character. -/
theorem closeList_bracket (rest : List Char) : closeList (']' :: rest) = .ok rest :=
  rfl

/-- A list of a fixed length is read. -/
theorem readVector_write {count : Nat} {shape : Shape} (law : Reads shape.read shape.write) :
    Reads (Shape.read (.vector count shape)) (Shape.write (.vector count shape)) := by
  intro values rest _
  obtain ⟨body, written, items⟩ :=
    readItems_write law shape.write_cons (Shape.vector count shape).wanted values rest
  have blank : isBlank '[' = false := by decide
  simp only [Shape.read, Shape.write, written, List.cons_append, List.append_assoc,
    skipBlank_cons blank, if_true, List.nil_append, items, closeList_bracket]
  rfl

/-! ### Optional values -/

/-- What may be absent is read. -/
theorem readOptional_write {shape : Shape} (inner : shape.absent? = none)
    (law : Reads shape.read shape.write) :
    Reads (Shape.read (.optional shape)) (Shape.write (.optional shape)) := by
  rintro (_ | value) rest closes
  · rfl
  · obtain ⟨c, cs, front, opens⟩ := Shape.write_cons_of_absent inner value
    have scanned := law value closes
    simp only [Shape.write, Shape.read]
    rw [front, List.cons_append] at scanned ⊢
    rw [skipBlank_cons opens.spec.1]
    -- the first character is not that of null
    split
    · next tail null => exact absurd (List.cons.inj null).1 opens.spec.2.2
    · rw [scanned]
      rfl

/-! ### Records -/

/-- All members were read. -/
def Fields.full : (fields : Fields) → fields.Value → fields.Slots
  | .done, _ => ()
  | .field _ _ rest, (value, values) => (some value, rest.full values)

/-- When all members were read the record is complete. -/
theorem Fields.close_full : ∀ (fields : Fields) (values : fields.Value),
    fields.close (fields.full values) = .ok values
  | .done, _ => rfl
  | .field _ _ rest, (value, values) => by
    have others := rest.close_full values
    simp only [full, close]
    change (rest.close (rest.full values)).map _ = _
    rw [others]
    rfl

/-- Every member takes some room. -/
theorem Fields.count_le_length : ∀ (fields : Fields) (first : Bool) (values : fields.Value),
    fields.count ≤ (fields.write first values).length
  | .done, _, _ => Nat.le_refl _
  | .field name shape rest, first, (value, values) => by
    have others := rest.count_le_length false values
    simp only [count, write, List.length_append, List.length_cons]
    omega

/-- The text of a member after its comma, up to the next member. -/
theorem Fields.write_field (name : String) (shape : Shape) (rest : Fields) (first : Bool)
    (value : shape.Value) (values : rest.Value) (after : List Char) :
    (Fields.field name shape rest).write first (value, values) ++ after =
      (if first then [] else [',']) ++ '"' :: (name.toList.flatMap escape ++
        '"' :: ':' :: (shape.write value ++ (rest.write false values ++ after))) := by
  simp [write, writeText]

/-- The reader steps to the next key, over the comma before it. -/
theorem nextKey_quote (first : Bool) (cs : List Char) :
    nextKey (if first then .first else .later) ((if first then [] else [',']) ++ '"' :: cs) =
      .ok (true, cs) := by
  cases first <;> rfl

/-- At the closing brace there are no more keys. -/
theorem nextKey_brace (first : Bool) (cs : List Char) :
    nextKey (if first then .first else .later) ('\x7d' :: cs) = .ok (false, cs) := by
  cases first <;> rfl

/-- Behind the members of a record stands a comma or the closing brace. -/
theorem Fields.closes_write (fields : Fields) (values : fields.Value) (cs : List Char) :
    Closes (fields.write false values ++ '\x7d' :: cs) := by
  cases fields with
  | done => exact closes_cons (by decide) _
  | field name shape rest => exact closes_cons (by decide) _

/-- **The members are read as they are written**, by any loop that reads them as the
record does. The loop is seen through `embed`, which completes the members still to
come by those before. -/
def Fields.Followed (fields : Fields) : Prop :=
  ∀ {σ : Type} (member : String → σ → Scanner σ) (embed : fields.Slots → σ),
    (∀ key ∈ fields.names, ∀ slots cs, member key (embed slots) cs =
      (fields.readMember key slots cs).map fun (slots, cs) => (embed slots, cs)) →
    ∀ (first : Bool) (values : fields.Value) {fuel : Nat} (rest : List Char),
      fields.count < fuel →
      readMembers member fuel (if first then .first else .later) (embed fields.empty)
          (fields.write first values ++ '\x7d' :: rest) =
        .ok (embed (fields.full values), rest)

/-- Without members the loop ends at once. -/
theorem Fields.followed_done : Fields.done.Followed := by
  intro σ member embed _ first values fuel rest enough
  obtain ⟨fuel, rfl⟩ := Nat.exists_eq_add_of_lt enough
  simp only [write, List.nil_append, readMembers, nextKey_brace, full, empty]

/-- One more member is read into its slot, and then the others are. -/
theorem Fields.Followed.field {name : String} {shape : Shape} {others : Fields}
    (new : name ∉ others.names) (law : Reads shape.read shape.write) (h : others.Followed) :
    (Fields.field name shape others).Followed := by
  intro σ member embed agrees first values fuel rest enough
  obtain ⟨value, values⟩ := values
  obtain ⟨fuel, rfl⟩ : ∃ less, fuel = less + 1 :=
    Nat.exists_eq_succ_of_ne_zero (Nat.ne_of_gt (Nat.lt_of_le_of_lt (Nat.zero_le _) enough))
  have colon : isBlank ':' = false := by decide
  -- the loop reads this member into its own slot
  have own : member name (embed (Fields.field name shape others).empty)
      (':' :: (shape.write value ++ (others.write false values ++ '\x7d' :: rest))) =
        .ok (embed (some value, others.empty), others.write false values ++ '\x7d' :: rest) := by
    have scanned := law value (others.closes_write values rest)
    rw [agrees name (List.mem_cons_self ..)]
    simp only [empty, readMember, if_true, Option.isSome_none, Bool.false_eq_true, if_false,
      passColon, skipBlank_cons colon, scanned]
    rfl
  -- and goes on with the others, which leave that slot alone
  have go := h member (fun slots => embed (some value, slots)) (fun key mem slots cs => by
    have other : key ≠ name := by
      rintro rfl
      exact new mem
    rw [agrees key (List.mem_cons_of_mem _ mem)]
    simp only [readMember, if_neg other]
    cases others.readMember key slots cs <;> rfl) false values rest (Nat.lt_of_succ_lt_succ enough)
  rw [write_field, readMembers, nextKey_quote]
  simp only [scanText_escape, own]
  exact go

/-- A record is read. -/
theorem readRecord_write {name : String} {fields : Fields} (h : fields.Followed) :
    Reads (Shape.read (.record name fields)) (Shape.write (.record name fields)) := by
  intro values rest _
  have blank : isBlank '\x7b' = false := by decide
  have bracket : ¬ '\x7b' = '[' := by decide
  -- the fuel of the loop is the length of the text, and every member takes some of it
  have room : fields.count < (fields.write true values ++ '\x7d' :: rest).length + 1 := by
    have members := fields.count_le_length true values
    rw [List.length_append]
    omega
  have members := h fields.readMember (fun slots => slots) (fun key _ slots cs => by
    cases fields.readMember key slots cs <;> rfl) true values rest room
  simp only [if_true] at members
  simp only [Shape.read, Shape.write, List.cons_append, List.append_assoc, List.nil_append,
    skipBlank_cons blank, if_neg bracket, if_true, members, fields.close_full]
  rfl

/-! ### Choices -/

/-- The value is written and read under the name: by the name alone, or by the name and
what follows it. -/
def Arms.Named (arms : Arms) (value : arms.Value) (name : String) : Prop :=
  (arms.write value = writeText name ∧ ∀ names, arms.readBare names name = .ok value) ∨
  ∃ body, arms.write value = '\x7b' :: (writeText name ++ ':' :: body ++ ['\x7d']) ∧
    ∀ names rest, arms.readMember names name (':' :: (body ++ '\x7d' :: rest)) =
      .ok (value, '\x7d' :: rest)

/-- **Every alternative is read as it is written**, under one of the names. -/
def Arms.Resolved (arms : Arms) : Prop :=
  ∀ value : arms.Value, ∃ name ∈ arms.names, arms.Named value name

/-- A name keeps its value where alternatives are added that leave the name to the
others. -/
theorem Arms.Named.embed {others : Arms} {value : others.Value} {name : String}
    (h : others.Named value name) (arms : Arms) (embed : others.Value → arms.Value)
    (written : arms.write (embed value) = others.write value)
    (bare : ∀ names, arms.readBare names name = (others.readBare names name).map embed)
    (member : ∀ names cs, arms.readMember names name cs =
      (others.readMember names name cs).map fun (value, cs) => (embed value, cs)) :
    arms.Named (embed value) name := by
  rcases h with ⟨alone, read⟩ | ⟨body, carried, read⟩
  · refine .inl ⟨written.trans alone, fun names => ?_⟩
    rw [bare, read]
    rfl
  · refine .inr ⟨body, written.trans carried, fun names rest => ?_⟩
    rw [member, read]
    rfl

/-- A bare name in front leaves the other names to the others. -/
theorem Arms.Resolved.bare {name : String} {others : Arms} (new : name ∉ others.names)
    (h : others.Resolved) : (Arms.bare name others).Resolved := by
  rintro (⟨⟩ | value)
  · exact ⟨name, List.mem_cons_self .., .inl ⟨rfl, fun names => if_pos rfl⟩⟩
  · obtain ⟨key, mem, named⟩ := h value
    have other : key ≠ name := ne_of_mem_of_not_mem mem new
    exact ⟨key, List.mem_cons_of_mem _ mem,
      named.embed (.bare name others) Sum.inr rfl (fun _ => if_neg other) (fun _ _ => if_neg other)⟩

/-- So does a name that carries a value. -/
theorem Arms.Resolved.carrying {name : String} {shape : Shape} {others : Arms}
    (new : name ∉ others.names) (law : Reads shape.read shape.write) (h : others.Resolved) :
    (Arms.carrying name shape others).Resolved := by
  rintro (value | value)
  · have colon : isBlank ':' = false := by decide
    refine ⟨name, List.mem_cons_self .., .inr ⟨shape.write value, rfl, fun names rest => ?_⟩⟩
    -- the value ends where the brace of its alternative closes
    have scanned := law value (closes_cons (.inr (.inr rfl)) rest)
    simp only [readMember, if_true, passColon, skipBlank_cons colon, scanned]
    rfl
  · obtain ⟨key, mem, named⟩ := h value
    have other : key ≠ name := ne_of_mem_of_not_mem mem new
    exact ⟨key, List.mem_cons_of_mem _ mem,
      named.embed (.carrying name shape others) Sum.inr rfl (fun _ => if_neg other)
        (fun _ _ => if_neg other)⟩

/-- A choice is read. -/
theorem readChoice_write {arms : Arms} (h : arms.Resolved) :
    Reads (Shape.read (.choice arms)) (Shape.write (.choice arms)) := by
  intro value rest _
  have quote : isBlank '"' = false := by decide
  have brace : isBlank '\x7b' = false := by decide
  have closing : isBlank '\x7d' = false := by decide
  have differ : ¬ '\x7b' = '"' := by decide
  obtain ⟨name, -, ⟨written, read⟩ | ⟨body, written, read⟩⟩ := h value
  -- a quote announces a bare name, a brace a name with a value
  · simp only [Shape.read, Shape.write, written, writeText, List.cons_append, List.append_assoc,
      List.nil_append, skipBlank_cons quote, if_true, scanText_escape, read]
    rfl
  · simp only [Shape.read, Shape.write, written, writeText, List.cons_append, List.append_assoc,
      List.nil_append, skipBlank_cons quote, skipBlank_cons brace, skipBlank_cons closing,
      if_neg differ, if_true, scanText_escape, read]

/-! ### Every shape -/

mutual

/-- **Values are read as they are written.** -/
theorem Shape.read_write : (shape : Shape) → shape.isSound = true → Reads shape.read shape.write
  | .text, _ => readText_write
  | .flag, _ => readFlag_write
  | .byte, _ => readByte_write
  | .word, _ => readWord_write
  | .int, _ => readInt_write
  | .optional shape, sound => by
    simp only [Shape.isSound, Bool.and_eq_true, Option.isNone_iff_eq_none] at sound
    exact readOptional_write sound.1 (shape.read_write sound.2)
  | .vector _ shape, sound => readVector_write (shape.read_write sound)
  | .record _ fields, sound => readRecord_write (fields.followed sound)
  | .choice arms, sound => readChoice_write (arms.resolved sound)

/-- The members of a sound record are read. -/
theorem Fields.followed : (fields : Fields) → fields.isSound = true → fields.Followed
  | .done, _ => Fields.followed_done
  | .field name shape others, sound => by
    simp only [Fields.isSound, Bool.and_eq_true, Bool.not_eq_true', List.contains_eq_mem,
      decide_eq_false_iff_not] at sound
    exact Fields.Followed.field sound.1.1 (shape.read_write sound.1.2) (others.followed sound.2)

/-- The alternatives of a sound choice are read. -/
theorem Arms.resolved : (arms : Arms) → arms.isSound = true → arms.Resolved
  | .done, _ => nofun
  | .bare name others, sound => by
    simp only [Arms.isSound, Bool.and_eq_true, Bool.not_eq_true', List.contains_eq_mem,
      decide_eq_false_iff_not] at sound
    exact Arms.Resolved.bare sound.1 (others.resolved sound.2)
  | .carrying name shape others, sound => by
    simp only [Arms.isSound, Bool.and_eq_true, Bool.not_eq_true', List.contains_eq_mem,
      decide_eq_false_iff_not] at sound
    exact Arms.Resolved.carrying sound.1.1 (shape.read_write sound.1.2) (others.resolved sound.2)

end

/-- **The text of a value is read as that value.** -/
theorem Shape.decode_encode {shape : Shape} (sound : shape.isSound = true) (value : shape.Value) :
    shape.decode (shape.encode value) = .ok value := by
  have read := shape.read_write sound value closes_nil
  rw [List.append_nil] at read
  unfold decode encode
  rw [String.toList_ofList, read]
  rfl

end ConfigReplica.Json
