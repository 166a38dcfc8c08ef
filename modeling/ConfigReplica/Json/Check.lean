import ConfigReplica.Json.Scan

/-!
# Well-formed JSON

`check` accepts exactly the texts that are one JSON value, of any kind, with blanks around it:
numbers must be representable, numbered characters must make complete pairs, and lists and objects
may be nested to a depth below `maxDepth`.

`skipValue` passes over one value of a member that no reader asks for. It is more lenient: it looks
at the form of numbers and texts only, and does not count the depth.
-/

namespace ConfigReplica.Json

/-- The depth of nesting that is no longer accepted. -/
def maxDepth : Nat := 128

/-! ### Strict reading -/

/-- Where a list stands: before its first item, or after an item. -/
inductive ItemPlace where
  | first
  | later
  deriving DecidableEq, Repr

/-- Steps to the next item of a list, if there is one; otherwise passes over the closing bracket. -/
def nextItem (place : ItemPlace) (cs : List Char) : Except Fault (Bool × List Char) :=
  match skipBlank cs with
  | [] => .error .endInList
  | c :: rest =>
    if c = ']' then .ok (false, rest)
    else if place = .first then .ok (true, c :: rest)
    else if c = ',' then
      match skipBlank rest with
      | [] => .error .endInValue
      | d :: rest => if d = ']' then .error .trailingComma else .ok (true, d :: rest)
    else .error .listGoesOn

/-- Steps past the opening quote of the next key of an object, if there is one; otherwise passes
over the closing brace. -/
def nextKey (place : ItemPlace) (cs : List Char) : Except Fault (Bool × List Char) :=
  match skipBlank cs with
  | [] => .error .endInObject
  | c :: rest =>
    if c = '\x7d' then .ok (false, rest)
    else if place = .first then
      if c = '"' then .ok (true, rest) else .error .keyExpected
    else if c = ',' then
      match skipBlank rest with
      | [] => .error .endInValue
      | d :: rest =>
        if d = '"' then .ok (true, rest)
        else if d = '\x7d' then .error .trailingComma
        else .error .keyExpected
    else .error .objectGoesOn

/-- Passes over the colon between a key and its value. -/
def passColon (cs : List Char) : Except Fault (List Char) :=
  match skipBlank cs with
  | [] => .error .endInObject
  | c :: rest => if c = ':' then .ok rest else .error .colonExpected

mutual

/-- Reads one value and gives what follows it. `fuel` bounds the number of values and items, `room`
is how much deeper lists and objects may be nested. -/
def checkValue (fuel room : Nat) (cs : List Char) : Except Fault (List Char) :=
  match fuel with
  | 0 => .error .tooDeep
  | fuel + 1 =>
    match skipBlank cs with
    | [] => .error .endInValue
    | c :: rest =>
      if c = 'n' then word ['u', 'l', 'l'] rest
      else if c = 't' then word ['r', 'u', 'e'] rest
      else if c = 'f' then word ['a', 'l', 's', 'e'] rest
      else if c = '"' then (scanText rest).map Prod.snd
      else if c = '-' ∨ c.isDigit then (scanNumber (c :: rest)).map Prod.snd
      else if c = '[' then
        match room with
        | 0 => .error .tooDeep
        | room + 1 => checkItems fuel room .first rest
      else if c = '\x7b' then
        match room with
        | 0 => .error .tooDeep
        | room + 1 => checkMembers fuel room .first rest
      else .error .valueExpected

/-- Reads the items of a list and its closing bracket. -/
def checkItems (fuel room : Nat) (place : ItemPlace) (cs : List Char) :
    Except Fault (List Char) :=
  match fuel with
  | 0 => .error .tooDeep
  | fuel + 1 =>
    match nextItem place cs with
    | .error fault => .error fault
    | .ok (false, rest) => .ok rest
    | .ok (true, rest) =>
      match checkValue fuel room rest with
      | .error fault => .error fault
      | .ok rest => checkItems fuel room .later rest

/-- Reads the members of an object and its closing brace. -/
def checkMembers (fuel room : Nat) (place : ItemPlace) (cs : List Char) :
    Except Fault (List Char) :=
  match fuel with
  | 0 => .error .tooDeep
  | fuel + 1 =>
    match nextKey place cs with
    | .error fault => .error fault
    | .ok (false, rest) => .ok rest
    | .ok (true, rest) =>
      match scanText rest with
      | .error fault => .error fault
      | .ok (_, rest) =>
        match passColon rest with
        | .error fault => .error fault
        | .ok rest =>
          match checkValue fuel room rest with
          | .error fault => .error fault
          | .ok rest => checkMembers fuel room .later rest

end

/-- Nothing but blanks may follow a complete value. -/
def finish (cs : List Char) : Except Fault Unit :=
  if (skipBlank cs).isEmpty then .ok () else .error .trailingCharacters

/-- Whether a text is one JSON value. -/
def check (text : String) : Except Fault Unit := do
  let cs := text.toList
  let rest ← checkValue (2 * cs.length + 2) (maxDepth - 1) cs
  finish rest

/-! ### Lenient reading -/

/-- Passes over the digits of an exponent after its letter. -/
def skipExponent (cs : List Char) : Except Fault (List Char) :=
  let cs := match cs with
    | '+' :: rest => rest
    | '-' :: rest => rest
    | _ => cs
  let (run, rest) := spanDigits cs
  if run.isEmpty then .error .badNumber else .ok rest

/-- Passes over what may follow the whole digits of a number. -/
def skipTail (cs : List Char) : Except Fault (List Char) :=
  match cs with
  | 'e' :: rest => skipExponent rest
  | 'E' :: rest => skipExponent rest
  | _ => .ok cs

/-- Passes over a number after its sign. -/
def skipMagnitude (cs : List Char) : Except Fault (List Char) :=
  let (run, rest) := spanDigits cs
  match run with
  | [] => .error .badNumber
  | '0' :: _ :: _ => .error .badNumber
  | _ =>
    match rest with
    | '.' :: rest =>
      let (run, rest) := spanDigits rest
      if run.isEmpty then .error .badNumber else skipTail rest
    | _ => skipTail rest

/-- An open list or object. -/
inductive Bracket where
  | list
  | object
  deriving DecidableEq, Repr

/-- The fault of a text that ends inside. -/
def Bracket.endFault : Bracket → Fault
  | .list => .endInList
  | .object => .endInObject

/-- The fault of an item that is followed by neither a comma nor the end. -/
def Bracket.goesOnFault : Bracket → Fault
  | .list => .listGoesOn
  | .object => .objectGoesOn

/-- What closes it. -/
def Bracket.closing : Bracket → Char
  | .list => ']'
  | .object => '\x7d'

/-- Passes over a key and its colon. -/
def skipKey (cs : List Char) : Except Fault (List Char) :=
  match skipBlank cs with
  | [] => .error .endInObject
  | c :: rest =>
    if c = '"' then
      match skipText rest with
      | .error fault => .error fault
      | .ok rest => passColon rest
    else .error .keyExpected

mutual

/-- Passes over one value that stands in the open brackets, the innermost first, and then over what
is left in them. -/
def skipWithin (fuel : Nat) (brackets : List Bracket) (cs : List Char) : Except Fault (List Char) :=
  match fuel with
  | 0 => .error .tooDeep
  | fuel + 1 =>
    match skipBlank cs with
    | [] => .error .endInValue
    | c :: rest =>
      let plain (step : Except Fault (List Char)) : Except Fault (List Char) :=
        match step with
        | .error fault => .error fault
        | .ok rest => skipOn fuel true brackets rest
      if c = 'n' then plain (word ['u', 'l', 'l'] rest)
      else if c = 't' then plain (word ['r', 'u', 'e'] rest)
      else if c = 'f' then plain (word ['a', 'l', 's', 'e'] rest)
      else if c = '-' then plain (skipMagnitude rest)
      else if c.isDigit then plain (skipMagnitude (c :: rest))
      else if c = '"' then plain (skipText rest)
      else if c = '[' then skipOn fuel false (.list :: brackets) rest
      else if c = '\x7b' then skipOn fuel false (.object :: brackets) rest
      else .error .valueExpected

/-- Goes on after an item, or after an opening bracket where `afterItem` is false: closes brackets,
or moves to the next item. -/
def skipOn (fuel : Nat) (afterItem : Bool) (brackets : List Bracket) (cs : List Char) :
    Except Fault (List Char) :=
  match fuel with
  | 0 => .error .tooDeep
  | fuel + 1 =>
    match brackets with
    | [] => .ok cs
    | bracket :: outer =>
      let item (rest : List Char) : Except Fault (List Char) :=
        match bracket with
        | .list => skipWithin fuel brackets rest
        | .object =>
          match skipKey rest with
          | .error fault => .error fault
          | .ok rest => skipWithin fuel brackets rest
      match skipBlank cs with
      | [] => .error bracket.endFault
      | c :: rest =>
        if afterItem && c = ',' then item rest
        else if c = bracket.closing then skipOn fuel true outer rest
        else if afterItem then .error bracket.goesOnFault
        else item (c :: rest)

end

/-- Passes over one value of any kind. -/
def skipValue (cs : List Char) : Except Fault (List Char) :=
  skipWithin (2 * cs.length + 2) [] cs

end ConfigReplica.Json
