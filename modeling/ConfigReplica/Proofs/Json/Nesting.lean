import ConfigReplica.Proofs.Json.RoundTrip

/-!
# Typed JSON is well-formed

`Shape.check_encode`: the text of a value passes the check that updates are held to, if
its shape is not nested too deep (`Shape.depth`). The check knows nothing of shapes. It
reads any JSON, but counts how deep lists and objects are nested, which no writer does.

`Passes room write` is the law of one writer: what it writes is passed over, whatever
follows, where lists and objects may be nested `room` deep. The check is given fuel for
each value and each item; twice the length of a text is enough of it.
-/

namespace ConfigReplica.Json

mutual

/-- How deep lists and objects are nested in the values of a shape. -/
def Shape.depth : Shape → Nat
  | .optional shape => shape.depth
  | .vector _ shape => shape.depth + 1
  | .record _ fields => fields.depth + 1
  | .choice arms => arms.depth
  | .text | .flag | .byte | .word | .int => 0

/-- How deep they are nested in the members of a record. -/
def Fields.depth : Fields → Nat
  | .done => 0
  | .field _ shape rest => max shape.depth rest.depth

/-- How deep they are nested in the alternatives of a choice. -/
def Arms.depth : Arms → Nat
  | .done => 0
  | .bare _ rest => rest.depth
  | .carrying _ shape rest => max (shape.depth + 1) rest.depth

end

/-- **The check passes over what is written.** -/
def Passes {α : Type} (room : Nat) (write : α → List Char) : Prop :=
  ∀ value fuel {rest}, Closes rest → 2 * (write value).length ≤ fuel + 1 →
    checkValue (fuel + 1) room (write value ++ rest) = .ok rest

variable {room : Nat}

/-! ### Plain values -/

/-- A text between quotes is passed over. -/
theorem passes_text : Passes room writeText := by
  intro value fuel rest _ _
  have blank : isBlank '"' = false := by decide
  have scanned := scanText_escape value rest
  simp only [writeText, List.cons_append, List.append_assoc, List.nil_append, checkValue,
    skipBlank_cons blank, scanned]
  rfl

/-- A truth value is passed over. -/
theorem passes_flag : Passes room (Shape.write .flag) := by
  intro value fuel rest _ _
  cases value <;> rfl

/-- An integer of 64 bits. -/
theorem checkValue_signed {n : Int} (low : Int64.minValue.toInt ≤ n) (high : n ≤ maxWord)
    (fuel : Nat) {rest : List Char} (closes : Closes rest) :
    checkValue (fuel + 1) room (Decimal.signed n ++ rest) = .ok rest := by
  obtain ⟨c, cs, front, sign⟩ := signed_cons n
  have opens : Opens c := by
    rcases sign with sign | digit
    · exact .inr (.inr (.inr (.inl sign)))
    · exact .of_isDigit digit
  have scanned := scanNumber_signed low high closes.endsNumber
  -- what starts a number starts nothing else
  have other (d : Char) (differs : d ≠ '-') (letter : d.isDigit = false) : c ≠ d := by
    rintro rfl
    rcases sign with sign | digit
    · exact differs sign
    · rw [letter] at digit
      cases digit
  rw [front, List.cons_append] at scanned ⊢
  unfold checkValue
  simp only [skipBlank_cons opens.spec.1, if_neg (other 'n' (by decide) (by decide)),
    if_neg (other 't' (by decide) (by decide)), if_neg (other 'f' (by decide) (by decide)),
    if_neg (other '"' (by decide) (by decide)), if_pos sign, scanned]
  rfl

/-- An integer without sign. -/
theorem checkValue_digits {n : Nat} (high : n ≤ maxWord) (fuel : Nat) {rest : List Char}
    (closes : Closes rest) : checkValue (fuel + 1) room (Decimal.digits n ++ rest) = .ok rest := by
  rw [← signed_natCast]
  exact checkValue_signed (Int.le_trans (by decide) (Int.natCast_nonneg _)) (by omega) fuel closes

/-- A byte is passed over. -/
theorem passes_byte : Passes room (Shape.write .byte) := by
  intro value fuel rest closes _
  have bound := value.toNat_lt
  exact checkValue_digits (by simp only [maxWord, UInt64.size]; omega) fuel closes

/-- A word is passed over. -/
theorem passes_word : Passes room (Shape.write .word) := by
  intro value fuel rest closes _
  have bound := value.toNat_lt
  exact checkValue_digits (by simp only [maxWord, UInt64.size]; omega) fuel closes

/-- An integer is passed over. -/
theorem passes_int : Passes room (Shape.write .int) := by
  intro value fuel rest closes _
  have greatest := Int64.toInt_lt value
  exact checkValue_signed value.minValue_le_toInt (by simp only [maxWord, UInt64.size]; omega)
    fuel closes

/-- What may be absent is passed over, as null or as its value. -/
theorem passes_optional {shape : Shape} (law : Passes room shape.write) :
    Passes room (Shape.write (.optional shape)) := by
  rintro (_ | value) fuel rest closes enough
  · rfl
  · exact law value fuel closes enough

/-! ### Lists -/

section Items

variable {α : Type} {write : α → List Char}

/-- The items after the first are passed over, each with its comma. -/
theorem checkItems_later (law : Passes room write)
    (opens : ∀ value, ∃ c cs, write value = c :: cs ∧ isBlank c = false ∧ c ≠ ']')
    (values : List α) (fuel : Nat) (rest : List Char)
    (enough : 2 * ((values.map write).flatMap fun cs => ',' :: cs).length < fuel) :
    checkItems fuel room .later
      (((values.map write).flatMap fun cs => ',' :: cs) ++ ']' :: rest) = .ok rest := by
  induction values generalizing fuel with
  | nil =>
    obtain ⟨fuel, rfl⟩ := Nat.exists_eq_add_of_lt enough
    rfl
  | cons value values ih =>
    obtain ⟨c, cs, front, blank, item⟩ := opens value
    simp only [List.map_cons, List.flatMap_cons, List.length_append, List.length_cons] at enough
    -- one unit of fuel for the item, one for its value
    obtain ⟨fuel, rfl⟩ : ∃ less, fuel = less + 2 := ⟨fuel - 2, by omega⟩
    have next := nextItem_later blank item
      (cs ++ (((values.map write).flatMap fun cs => ',' :: cs) ++ ']' :: rest))
    have closes : Closes (((values.map write).flatMap fun cs => ',' :: cs) ++ ']' :: rest) := by
      cases values <;> exact closes_cons (by decide) _
    have passed := law value fuel closes (by omega)
    rw [front, List.cons_append] at passed
    simp only [List.map_cons, List.flatMap_cons, List.cons_append, List.append_assoc, front] at next ⊢
    unfold checkItems
    simp only [next, passed]
    exact ih _ (by omega)

/-- A bracket takes some of the room. -/
theorem checkValue_bracket (fuel room : Nat) (cs : List Char) :
    checkValue (fuel + 1) (room + 1) ('[' :: cs) = checkItems fuel room .first cs := by
  have blank : isBlank '[' = false := by decide
  unfold checkValue
  rw [skipBlank_cons blank]
  rfl

/-- **Lists are passed over**, if their items are. -/
theorem passes_items (law : Passes room write)
    (opens : ∀ value, ∃ c cs, write value = c :: cs ∧ isBlank c = false ∧ c ≠ ']') :
    Passes (room + 1) fun values : List α => writeItems (values.map write) := by
  intro values fuel rest _ enough
  cases values with
  -- an empty list has its two brackets, and the second takes one unit of fuel
  | nil =>
    obtain ⟨fuel, rfl⟩ : ∃ less, fuel = less + 1 := ⟨fuel - 1, by
      simp only [List.map_nil, writeItems, List.intersperse_nil, List.flatten_nil,
        List.nil_append, List.length_cons, List.length_nil] at enough
      omega⟩
    exact checkValue_bracket _ _ _
  | cons value values =>
    obtain ⟨c, cs, front, blank, item⟩ := opens value
    simp only [List.map_cons, writeItems_cons, List.length_append, List.length_cons,
      List.length_nil] at enough
    obtain ⟨fuel, rfl⟩ : ∃ less, fuel = less + 2 := ⟨fuel - 2, by omega⟩
    let later := (values.map write).flatMap fun cs => ',' :: cs
    have closes : Closes (later ++ ']' :: rest) := by
      unfold later
      cases values <;> exact closes_cons (by decide) _
    have first := nextItem_first blank item (cs ++ (later ++ ']' :: rest))
    have passed := law value fuel closes (by omega)
    have others := checkItems_later law opens values (fuel + 1) rest (by omega)
    rw [front, List.cons_append] at passed
    simp only [List.map_cons, writeItems_cons, List.cons_append, List.append_assoc, front,
      List.nil_append, checkValue_bracket]
    unfold checkItems
    simp only [first, passed, later, others]

end Items

/-! ### Records and choices -/

/-- The members are passed over, with the brace that closes the record. -/
def Fields.Passed (room : Nat) (fields : Fields) : Prop :=
  ∀ (first : Bool) (values : fields.Value) (fuel : Nat) (rest : List Char),
    2 * (fields.write first values).length < fuel →
    checkMembers fuel room (if first then .first else .later)
      (fields.write first values ++ '\x7d' :: rest) = .ok rest

/-- Of no members only the brace is left. -/
theorem Fields.passed_done : Fields.done.Passed room := by
  intro first values fuel rest enough
  obtain ⟨fuel, rfl⟩ := Nat.exists_eq_add_of_lt enough
  simp only [write, List.nil_append, checkMembers, nextKey_brace]

/-- A member is passed over with its name and its comma. -/
theorem Fields.Passed.field {shape : Shape} {others : Fields} (name : String)
    (law : Passes room shape.write) (h : others.Passed room) :
    (Fields.field name shape others).Passed room := by
  intro first values fuel rest enough
  obtain ⟨value, values⟩ := values
  have written := congrArg List.length (write_field name shape others first value values [])
  simp only [List.append_nil, List.length_append, List.length_cons] at written
  -- one unit of fuel for the member, one for its value
  obtain ⟨fuel, rfl⟩ : ∃ less, fuel = less + 2 := ⟨fuel - 2, by omega⟩
  have colon : isBlank ':' = false := by decide
  have passed := law value fuel (others.closes_write values rest) (by omega)
  have others := h false values (fuel + 1) rest (by omega)
  rw [write_field, checkMembers, nextKey_quote]
  simp only [scanText_escape, passColon, skipBlank_cons colon, if_true, passed]
  exact others

/-- A record is passed over. -/
theorem passes_record {fields : Fields} (name : String) (h : fields.Passed room) :
    Passes (room + 1) (Shape.write (.record name fields)) := by
  intro values fuel rest _ enough
  have blank : isBlank '\x7b' = false := by decide
  simp only [Shape.write, List.length_cons, List.length_append, List.length_nil] at enough
  have members := h true values fuel rest (by omega)
  simp only [Shape.write, List.cons_append, List.append_assoc, List.nil_append]
  unfold checkValue
  rw [skipBlank_cons blank]
  exact members

/-- A bare name is passed over as a text. -/
theorem passes_bare {others : Arms} (name : String) (h : Passes room others.write) :
    Passes room (Arms.bare name others).write := by
  rintro (⟨⟩ | value)
  · exact passes_text name
  · exact h value

/-- A name that carries a value is passed over as a record of one member. -/
theorem passes_carrying {shape : Shape} {others : Arms} (name : String)
    (law : Passes room shape.write) (h : Passes (room + 1) others.write) :
    Passes (room + 1) (Arms.carrying name shape others).write := by
  rintro (value | value)
  · -- a name with its value is written as a record of one member
    have same : (Arms.carrying name shape others).write (.inl value) =
        Shape.write (.record name (.field name shape .done)) (value, ()) := by
      simp [Arms.write, Shape.write, Fields.write]
    rw [same]
    exact passes_record name (Fields.passed_done.field name law) (value, ())
  · exact h value

/-! ### Every shape -/

mutual

/-- **Values that are not nested too deep are passed over.** -/
theorem Shape.passes : (shape : Shape) → {room : Nat} → shape.depth ≤ room → Passes room shape.write
  | .text, _, _ => passes_text
  | .flag, _, _ => passes_flag
  | .byte, _, _ => passes_byte
  | .word, _, _ => passes_word
  | .int, _, _ => passes_int
  | .optional shape, _, within => passes_optional (shape.passes within)
  | .vector _ shape, _ + 1, within => fun values =>
    passes_items (shape.passes (Nat.le_of_succ_le_succ within)) shape.write_cons values.toList
  | .record name fields, _ + 1, within =>
    passes_record name (fields.passed (Nat.le_of_succ_le_succ within))
  | .choice arms, _, within => arms.passes within

/-- The members of a record are, each with the room that is left. -/
theorem Fields.passed : (fields : Fields) → {room : Nat} → fields.depth ≤ room → fields.Passed room
  | .done, _, _ => Fields.passed_done
  | .field name shape others, _, within =>
    .field name (shape.passes (Nat.le_trans (Nat.le_max_left ..) within))
      (others.passed (Nat.le_trans (Nat.le_max_right ..) within))

/-- And so is the value of a choice. -/
theorem Arms.passes : (arms : Arms) → {room : Nat} → arms.depth ≤ room → Passes room arms.write
  | .done, _, _ => nofun
  | .bare name others, _, within => passes_bare name (others.passes within)
  | .carrying _ _ _, 0, within =>
    absurd (Nat.le_trans (Nat.le_max_left ..) within) (Nat.not_succ_le_zero _)
  | .carrying name shape others, _ + 1, within =>
    passes_carrying name
      (shape.passes (Nat.le_of_succ_le_succ (Nat.le_trans (Nat.le_max_left ..) within)))
      (others.passes (Nat.le_trans (Nat.le_max_right ..) within))

end

/-- **The text of a value is well-formed**, if its shape is not nested too deep. -/
theorem Shape.check_encode {shape : Shape} (within : shape.depth < maxDepth) (value : shape.Value) :
    check (shape.encode value) = .ok () := by
  have passed := shape.passes (Nat.le_sub_one_of_lt within) value
    (2 * (shape.write value).length + 1) closes_nil (by omega)
  rw [List.append_nil] at passed
  unfold check encode
  simp only [String.toList_ofList, passed]
  rfl

/-! ### The bound is sharp -/

/-- Lists of one value, one inside the other. -/
def nested : Nat → Shape
  | 0 => .flag
  | depth + 1 => .vector 1 (nested depth)

def nestedValue : (depth : Nat) → (nested depth).Value
  | 0 => true
  | depth + 1 => (#v[nestedValue depth] : Vector (nested depth).Value 1)

/-- A list is one deeper than its item. -/
theorem depth_nested (depth : Nat) : (nested depth).depth = depth := by
  induction depth with
  | zero => rfl
  | succ depth ih => exact congrArg (· + 1) ih

/-- The check turns back at the bracket that is too deep. -/
theorem checkValue_nested {depth room : Nat} (deeper : room < depth) (fuel : Nat)
    (rest : List Char) :
    checkValue fuel room ((nested depth).write (nestedValue depth) ++ rest) = .error .tooDeep := by
  induction depth generalizing room fuel rest with
  | zero => exact absurd deeper (Nat.not_lt_zero _)
  | succ depth ih =>
    have blank : isBlank '[' = false := by decide
    obtain ⟨c, cs, front, blank', item⟩ := (nested depth).write_cons (nestedValue depth)
    have written : (nested (depth + 1)).write (nestedValue (depth + 1)) =
        '[' :: ((nested depth).write (nestedValue depth) ++ [']']) := by
      simp only [nested, nestedValue, Shape.write]
      exact (writeItems_cons _ []).trans (by simp)
    rw [written, List.cons_append]
    -- out of fuel, out of room, or one list further in
    cases fuel with
    | zero => rfl
    | succ fuel =>
      cases room with
      | zero =>
        unfold checkValue
        rw [skipBlank_cons blank]
        rfl
      | succ room =>
        rw [checkValue_bracket]
        cases fuel with
        | zero => rfl
        | succ fuel =>
          have inner := ih (Nat.lt_of_succ_lt_succ deeper) fuel ([']'] ++ rest)
          have next := nextItem_first blank' item (cs ++ ([']'] ++ rest))
          rw [front, List.cons_append] at inner
          rw [List.append_assoc, front, List.cons_append]
          unfold checkItems
          simp only [next, inner]

/-- **Nothing deeper is well-formed.** -/
theorem check_nested {depth : Nat} (deeper : maxDepth ≤ (nested depth).depth) :
    check ((nested depth).encode (nestedValue depth)) = .error .tooDeep := by
  rw [depth_nested] at deeper
  have room : maxDepth - 1 < depth := Nat.lt_of_lt_of_le (by decide) deeper
  have refused := checkValue_nested room
    (2 * ((nested depth).write (nestedValue depth)).length + 2) []
  rw [List.append_nil] at refused
  unfold check Shape.encode
  simp only [String.toList_ofList, refused]
  rfl

end ConfigReplica.Json
