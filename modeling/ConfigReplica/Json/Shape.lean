import ConfigReplica.Json.Check

/-!
# Typed JSON

A `Shape` says what kind of value a JSON text holds; `Shape.Value` is the type of such values. One
reader and one writer serve every shape:

- `Shape.write` is the compact text of a value, with the members of a record in order;
- `Shape.read` accepts more than it writes: blanks, members in any order, members it does not know,
  a record written as a list, and missing or null optional members. It goes through the text once
  and reports the first problem it meets.
-/

namespace ConfigReplica.Json

mutual

/-- A kind of JSON value. -/
inductive Shape where
  | text
  | flag
  /-- An integer of eight bits without sign. -/
  | byte
  /-- An integer of 64 bits without sign. -/
  | word
  /-- An integer of 64 bits with sign. -/
  | int
  /-- Null, or a value of the shape. -/
  | optional (shape : Shape)
  /-- A list of this many values. -/
  | vector (count : Nat) (shape : Shape)
  /-- An object with these members. -/
  | record (name : String) (fields : Fields)
  /-- One of these alternatives. -/
  | choice (arms : Arms)

/-- The members of a record, in the order in which they are written. -/
inductive Fields where
  | done
  | field (name : String) (shape : Shape) (rest : Fields)

/-- The alternatives of a choice: a name alone, or a name with a value. -/
inductive Arms where
  | done
  | bare (name : String) (rest : Arms)
  | carrying (name : String) (shape : Shape) (rest : Arms)

end

mutual

/-- The values of a shape. -/
@[reducible] def Shape.Value : Shape → Type
  | .text => String
  | .flag => Bool
  | .byte => UInt8
  | .word => UInt64
  | .int => Int64
  | .optional shape => Option shape.Value
  | .vector count shape => Vector shape.Value count
  | .record _ fields => fields.Value
  | .choice arms => arms.Value

/-- The values of the members, as nested pairs. -/
@[reducible] def Fields.Value : Fields → Type
  | .done => Unit
  | .field _ shape rest => shape.Value × rest.Value

/-- Which alternative is taken, and its value. -/
@[reducible] def Arms.Value : Arms → Type
  | .done => Empty
  | .bare _ rest => Unit ⊕ rest.Value
  | .carrying _ shape rest => shape.Value ⊕ rest.Value

end

/-- The members that were read so far. -/
@[reducible] def Fields.Slots : Fields → Type
  | .done => Unit
  | .field _ shape rest => Option shape.Value × rest.Slots

/-- No member was read yet. -/
def Fields.empty : (fields : Fields) → fields.Slots
  | .done => ()
  | .field _ _ rest => (none, rest.empty)

/-- The number of members. -/
def Fields.count : Fields → Nat
  | .done => 0
  | .field _ _ rest => rest.count + 1

/-- The names of the alternatives. -/
def Arms.names : Arms → List String
  | .done => []
  | .bare name rest => name :: rest.names
  | .carrying name _ rest => name :: rest.names

/-- How messages name what is wanted. -/
def Shape.wanted : Shape → String
  | .text => "a string"
  | .flag => "a boolean"
  | .byte => "u8"
  | .word => "u64"
  | .int => "i64"
  | .optional _ => "option"
  | .vector count _ => "an array of length " ++ Decimal.ofNat count
  | .record name _ => "struct " ++ name
  | .choice _ => "enum"

/-- The value of a member that is missing, where it may be. -/
def Shape.absent? : (shape : Shape) → Option shape.Value
  | .optional _ => some none
  | _ => none

/-- The fault of finding something of another kind at the front of `cs`, where no blank stands. What
was found is read first, and its own faults come before. -/
def foundInstead {α : Type} (wanted : String) (cs : List Char) : Except Fault α :=
  let wrong (found : Found) : Except Fault α := .error (.wrongType found wanted)
  match cs with
  | [] => .error .valueExpected
  | c :: rest =>
    if c = 'n' then (word ['u', 'l', 'l'] rest).bind fun _ => wrong .null
    else if c = 't' then (word ['r', 'u', 'e'] rest).bind fun _ => wrong (.boolean true)
    else if c = 'f' then (word ['a', 'l', 's', 'e'] rest).bind fun _ => wrong (.boolean false)
    else if c = '-' ∨ c.isDigit then (scanNumber cs).bind fun (n, _) => wrong n.found
    else if c = '"' then (scanText rest).bind fun (value, _) => wrong (.text value)
    else if c = '[' then wrong .sequence
    else if c = '\x7b' then wrong .object
    else .error .valueExpected

/-- Reads a text. -/
def readText : Scanner String
  | cs =>
    match skipBlank cs with
    | [] => .error .endInValue
    | c :: rest => if c = '"' then scanText rest else foundInstead Shape.text.wanted (c :: rest)

/-- Reads a truth value. -/
def readFlag : Scanner Bool
  | cs =>
    match skipBlank cs with
    | [] => .error .endInValue
    | c :: rest =>
      if c = 't' then (word ['r', 'u', 'e'] rest).map fun rest => (true, rest)
      else if c = 'f' then (word ['a', 'l', 's', 'e'] rest).map fun rest => (false, rest)
      else foundInstead Shape.flag.wanted (c :: rest)

/-- Reads an integer from `low` to `high`. -/
def readInteger (low high : Int) (wanted : String) : Scanner Int
  | cs =>
    match skipBlank cs with
    | [] => .error .endInValue
    | c :: rest =>
      if c = '-' ∨ c.isDigit then
        match scanNumber (c :: rest) with
        | .error fault => .error fault
        | .ok (.floating value, _) =>
          .error (.wrongType (Number.floating value).found wanted)
        | .ok (.integer value, rest) =>
          if low ≤ value ∧ value ≤ high then .ok (value, rest)
          else .error (.wrongValue (.integer value) wanted)
      else foundInstead wanted (c :: rest)

/-- Reads null where nothing else may stand. -/
def readNull (wanted : String) : Scanner Unit
  | cs =>
    match skipBlank cs with
    | [] => .error .endInValue
    | c :: rest =>
      if c = 'n' then (word ['u', 'l', 'l'] rest).map fun rest => ((), rest)
      else foundInstead wanted (c :: rest)

/-- The end of a list all of whose items were read. -/
def closeList (cs : List Char) : Except Fault (List Char) :=
  match skipBlank cs with
  | [] => .error .endInList
  | c :: rest =>
    if c = ']' then .ok rest
    else if c = ',' then
      match skipBlank rest with
      | d :: _ => .error (if d = ']' then .trailingComma else .trailingCharacters)
      | [] => .error .trailingCharacters
    else .error .trailingCharacters

/-- Reads `count` items of a list; `before` items were read already. -/
def readItems {α : Type} (item : Scanner α) (wanted : String) (count before : Nat) :
    Scanner (Vector α count)
  | cs =>
    match count with
    | 0 => .ok (#v[], cs)
    | count + 1 =>
      match nextItem (if before = 0 then .first else .later) cs with
      | .error fault => .error fault
      | .ok (false, _) => .error (.wrongLength before wanted)
      | .ok (true, rest) =>
        match item rest with
        | .error fault => .error fault
        | .ok (value, rest) =>
          match readItems item wanted count (before + 1) rest with
          | .error fault => .error fault
          | .ok (values, rest) => .ok ((#v[value] ++ values).cast (Nat.add_comm 1 count), rest)

/-- Reads the members of an object up to its closing brace, each by `member`, which is given the
name and the members so far. -/
def readMembers {σ : Type} (member : String → σ → Scanner σ) (fuel : Nat) (place : ItemPlace)
    (slots : σ) : Scanner σ
  | cs =>
    match fuel with
    | 0 => .error .endInObject
    | fuel + 1 =>
      match nextKey place cs with
      | .error fault => .error fault
      | .ok (false, rest) => .ok (slots, rest)
      | .ok (true, rest) =>
        match scanText rest with
        | .error fault => .error fault
        | .ok (name, rest) =>
          match member name slots rest with
          | .error fault => .error fault
          | .ok (slots, rest) => readMembers member fuel .later slots rest

mutual

/-- Reads a value of a shape from the front of a text. -/
def Shape.read : (shape : Shape) → Scanner shape.Value
  | .text, cs => readText cs
  | .flag, cs => readFlag cs
  | .byte, cs =>
    (readInteger 0 255 "u8" cs).map fun (n, rest) => (UInt8.ofNat n.toNat, rest)
  | .word, cs =>
    (readInteger 0 (UInt64.size - 1 : Nat) "u64" cs).map fun (n, rest) => (UInt64.ofNat n.toNat, rest)
  | .int, cs =>
    (readInteger Int64.minValue.toInt Int64.maxValue.toInt "i64" cs).map fun (n, rest) => (Int64.ofInt n, rest)
  | .optional shape, cs =>
    match skipBlank cs with
    | 'n' :: rest => (word ['u', 'l', 'l'] rest).map fun rest => (none, rest)
    | cs => (shape.read cs).map fun (value, rest) => (some value, rest)
  | .vector count shape, cs =>
    let wanted := (Shape.vector count shape).wanted
    match skipBlank cs with
    | [] => .error .endInValue
    | c :: rest =>
      if c = '[' then
        match readItems shape.read wanted count 0 rest with
        | .error fault => .error fault
        | .ok (values, rest) => (closeList rest).map fun rest => (values, rest)
      else foundInstead wanted (c :: rest)
  | .record name fields, cs =>
    match skipBlank cs with
    | [] => .error .endInValue
    | c :: rest =>
      if c = '[' then
        match fields.readInOrder name fields.count 0 rest with
        | .error fault => .error fault
        | .ok (values, rest) => (closeList rest).map fun rest => (values, rest)
      else if c = '\x7b' then
        match readMembers fields.readMember (rest.length + 1) .first fields.empty rest with
        | .error fault => .error fault
        | .ok (slots, rest) => (fields.close slots).map fun values => (values, rest)
      else foundInstead ("struct " ++ name) (c :: rest)
  | .choice arms, cs =>
    match skipBlank cs with
    | [] => .error .endInValue
    | c :: rest =>
      if c = '"' then
        match scanText rest with
        | .error fault => .error fault
        | .ok (name, rest) => (arms.readBare arms.names name).map fun value => (value, rest)
      else if c = '\x7b' then
        match skipBlank rest with
        | [] => .error .endInValue
        | d :: rest =>
          if d = '"' then
            match scanText rest with
            | .error fault => .error fault
            | .ok (name, rest) =>
              match arms.readMember arms.names name rest with
              | .error fault => .error fault
              | .ok (value, rest) =>
                match skipBlank rest with
                | [] => .error .endInObject
                | c :: rest => if c = '\x7d' then .ok (value, rest) else .error .valueExpected
          else foundInstead "variant identifier" (d :: rest)
      else .error .valueExpected

/-- Reads the value of the member `name` and keeps it; a member that is not known is passed over, one
that was read before is a fault. -/
def Fields.readMember : (fields : Fields) → String → fields.Slots → Scanner fields.Slots
  | .done, _, slots, cs =>
    (passColon cs).bind fun rest => (skipValue rest).map fun rest => (slots, rest)
  | .field name shape rest, key, (slot, slots), cs =>
    if key = name then
      if slot.isSome then .error (.duplicateField name)
      else
        match passColon cs with
        | .error fault => .error fault
        | .ok cs => (shape.read cs).map fun (value, cs) => ((some value, slots), cs)
    else (rest.readMember key slots cs).map fun (slots, cs) => ((slot, slots), cs)

/-- The record that was read, once its object is closed; the first member that is missing and must
not be is a fault. -/
def Fields.close : (fields : Fields) → fields.Slots → Except Fault fields.Value
  | .done, _ => .ok ()
  | .field name shape rest, (slot, slots) =>
    match slot <|> shape.absent? with
    | none => .error (.missingField name)
    | some value => (rest.close slots).map fun values => (value, values)

/-- Reads the members of a record `name` of `count` members written as a list; `before` of them were
read already. -/
def Fields.readInOrder : (fields : Fields) → (name : String) → (count before : Nat) →
    Scanner fields.Value
  | .done, _, _, _, cs => .ok ((), cs)
  | .field _ shape rest, name, count, before, cs =>
    match nextItem (if before = 0 then .first else .later) cs with
    | .error fault => .error fault
    | .ok (false, _) =>
      .error (.wrongLength before
        ("struct " ++ name ++ " with " ++ Decimal.ofNat count ++ " elements"))
    | .ok (true, cs) =>
      match shape.read cs with
      | .error fault => .error fault
      | .ok (value, cs) =>
        (rest.readInOrder name count (before + 1) cs).map fun (values, cs) => ((value, values), cs)

/-- The alternative that is given by its name alone. -/
def Arms.readBare : (arms : Arms) → (names : List String) → String → Except Fault arms.Value
  | .done, names, key => .error (.unknownChoice key names)
  | .bare name rest, names, key =>
    if key = name then .ok (.inl ()) else (rest.readBare names key).map .inr
  | .carrying name _ rest, names, key =>
    if key = name then .error (.wrongType .bareChoice "newtype variant")
    else (rest.readBare names key).map .inr

/-- Reads the alternative `key` with what follows its name. -/
def Arms.readMember : (arms : Arms) → (names : List String) → String → Scanner arms.Value
  | .done, names, key, _ => .error (.unknownChoice key names)
  | .bare name rest, names, key, cs =>
    if key = name then
      (passColon cs).bind fun cs => (readNull "unit" cs).map fun (_, cs) => (.inl (), cs)
    else (rest.readMember names key cs).map fun (value, cs) => (.inr value, cs)
  | .carrying name shape rest, names, key, cs =>
    if key = name then
      match passColon cs with
      | .error fault => .error fault
      | .ok cs => (shape.read cs).map fun (value, cs) => (.inl value, cs)
    else (rest.readMember names key cs).map fun (value, cs) => (.inr value, cs)

end

/-- The value of a whole text. -/
def Shape.decode (shape : Shape) (text : String) : Except Fault shape.Value := do
  let (value, rest) ← shape.read text.toList
  finish rest
  pure value

/-! ### Writing -/

/-- A character inside a written text. -/
def escape (c : Char) : List Char :=
  if c = '"' then ['\\', '"']
  else if c = '\\' then ['\\', '\\']
  else if c = '\x08' then ['\\', 'b']
  else if c = '\x0c' then ['\\', 'f']
  else if c = '\n' then ['\\', 'n']
  else if c = '\r' then ['\\', 'r']
  else if c = '\t' then ['\\', 't']
  else if c.toNat < 0x20 then
    ['\\', 'u', '0', '0', Hex.digit (c.toNat / 16), Hex.digit (c.toNat % 16)]
  else [c]

/-- A written text. -/
def writeText (text : String) : List Char :=
  '"' :: (text.toList.flatMap escape ++ ['"'])

/-- Items between brackets, with commas. -/
def writeItems (items : List (List Char)) : List Char :=
  '[' :: ((items.intersperse [',']).flatten ++ [']'])

mutual

/-- The compact text of a value. -/
def Shape.write : (shape : Shape) → shape.Value → List Char
  | .text, value => writeText value
  | .flag, value => if value then ['t', 'r', 'u', 'e'] else ['f', 'a', 'l', 's', 'e']
  | .byte, value => Decimal.digits value.toNat
  | .word, value => Decimal.digits value.toNat
  | .int, value => Decimal.signed value.toInt
  | .optional _, none => ['n', 'u', 'l', 'l']
  | .optional shape, some value => shape.write value
  | .vector _ shape, values => writeItems (values.toList.map shape.write)
  | .record _ fields, values => '\x7b' :: (fields.write true values ++ ['\x7d'])
  | .choice arms, value => arms.write value

/-- The members of a record; `first` says that none stands before. -/
def Fields.write : (fields : Fields) → (first : Bool) → fields.Value → List Char
  | .done, _, _ => []
  | .field name shape rest, first, (value, values) =>
    (if first then [] else [',']) ++ writeText name ++ ':' :: shape.write value ++
      rest.write false values

/-- An alternative: its name, or an object with its name and value. -/
def Arms.write : (arms : Arms) → arms.Value → List Char
  | .done, value => nomatch value
  | .bare name _, .inl _ => writeText name
  | .bare _ rest, .inr value => rest.write value
  | .carrying name shape _, .inl value =>
    '\x7b' :: writeText name ++ ':' :: shape.write value ++ ['\x7d']
  | .carrying _ _ rest, .inr value => rest.write value

end

/-- The compact text of a value, as it is stored. -/
def Shape.encode (shape : Shape) (value : shape.Value) : String :=
  String.ofList (shape.write value)

end ConfigReplica.Json
