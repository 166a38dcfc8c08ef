import ConfigReplica.Decimal.Shortest
import ConfigReplica.Hex
import ConfigReplica.Json.Fault

/-!
# The lexical level of JSON

Blanks, words, numbers and texts, each read from the front of a list of characters. A scanner gives
what it read and the characters after it, or the first fault it met.
-/

namespace ConfigReplica.Json

/-- A reader of the front of a text. -/
abbrev Scanner (α : Type) := List Char → Except Fault (α × List Char)

/-- The blanks of JSON. -/
def isBlank (c : Char) : Bool :=
  c = ' ' || c = '\t' || c = '\n' || c = '\r'

/-- What follows the blanks at the front. -/
def skipBlank (cs : List Char) : List Char :=
  cs.dropWhile isBlank

/-- Reads the rest of a word whose first letter was read. -/
def word (rest : List Char) : List Char → Except Fault (List Char)
  | cs =>
    match rest with
    | [] => .ok cs
    | letter :: rest =>
      match cs with
      | [] => .error .endInValue
      | c :: cs => if c = letter then word rest cs else .error .wordExpected

/-! ### Numbers -/

/-- A number: an integer of 64 bits with or without a sign, or a floating-point number. -/
inductive Number where
  | integer (value : Int)
  | floating (value : Float)

/-- The number as something found. -/
def Number.found : Number → Found
  | .integer value => .integer value
  | .floating value => .floating (Decimal.floatText value)

/-- The greatest significand that is kept exactly. -/
def maxWord : Nat := UInt64.size - 1

/-- Extends a significand by digits as long as it stays below the limit; gives the digits that were
left over. -/
def extend (significand : Nat) : List Char → Nat × List Char
  | [] => (significand, [])
  | c :: cs =>
    let next := 10 * significand + (c.toNat - '0'.toNat)
    if next ≤ maxWord then extend next cs else (significand, c :: cs)

/-- A power of ten up to `10 ^ 308`, rounded. -/
def powerOfTen (n : Nat) : Float :=
  Float.ofScientific 1 false n

/-- A floating-point number times a power of ten; overflow is a fault. Exponents beyond the table
of powers are reached in steps, of which a number of 64 bits needs no more than `steps`. -/
def scale (steps : Nat) (x : Float) (exponent : Int) : Except Fault Float :=
  if exponent.natAbs ≤ 308 then
    if 0 ≤ exponent then
      let y := x * powerOfTen exponent.natAbs
      if y.isInf then .error .numberOutOfRange else .ok y
    else .ok (x / powerOfTen exponent.natAbs)
  else if x == 0 then .ok x
  else if 0 ≤ exponent then .error .numberOutOfRange
  else
    match steps with
    | 0 => .ok x
    | steps + 1 => scale steps (x / powerOfTen 308) (exponent + 308)

/-- The floating-point number with this sign, significand and decimal exponent. -/
def floating (isNegative : Bool) (significand : Nat) (exponent : Int) : Except Fault Number :=
  match scale 4 (UInt64.ofNat significand).toFloat exponent with
  | .error fault => .error fault
  | .ok x => .ok (.floating (if isNegative then -x else x))

/-- Splits off the digits at the front. -/
def spanDigits (cs : List Char) : List Char × List Char :=
  (cs.takeWhile Char.isDigit, cs.dropWhile Char.isDigit)

/-- The greatest exponent that is read as written. -/
def maxExponent : Nat := (1 <<< 31) - 1

/-- Reads an exponent after its letter. Of an exponent that is too large only its sign counts. -/
def scanExponent (isNegative : Bool) (significand : Nat) (exponent : Int) : Scanner Number
  | cs =>
    let (lowers, cs) := match cs with
      | '+' :: rest => (false, rest)
      | '-' :: rest => (true, rest)
      | _ => (false, cs)
    match cs with
    | [] => .error .endInValue
    | c :: _ =>
      if !c.isDigit then .error .badNumber
      else
        let (run, rest) := spanDigits cs
        let shift := Decimal.value run
        let number :=
          if maxExponent < shift then
            if significand ≠ 0 ∧ !lowers then .error .numberOutOfRange
            else .ok (.floating (if isNegative then -0.0 else 0.0))
          else floating isNegative significand (if lowers then exponent - shift else exponent + shift)
        number.map fun n => (n, rest)

/-- Reads what may follow the digits before or after the point. -/
def scanTail (isNegative : Bool) (significand : Nat) (exponent : Int) (rest : List Char) :
    Except Fault (Number × List Char) :=
  match rest with
  | 'e' :: rest => scanExponent isNegative significand exponent rest
  | 'E' :: rest => scanExponent isNegative significand exponent rest
  | _ => (floating isNegative significand exponent).map fun n => (n, rest)

/-- Reads the digits after a point. Digits beyond the limit of the significand are passed over. -/
def scanFraction (isNegative : Bool) (significand : Nat) (exponent : Int) : Scanner Number
  | cs =>
    let (run, rest) := spanDigits cs
    if run.isEmpty then
      if rest.isEmpty then .error .endInValue else .error .badNumber
    else
      let (significand, left) := extend significand run
      let kept : Nat := run.length - left.length
      scanTail isNegative significand (exponent - kept) rest

/-- The integer with this sign and magnitude; negative zero and integers beyond 64 bits are
floating-point numbers. -/
def integer (isNegative : Bool) (magnitude : Nat) : Except Fault Number :=
  if !isNegative then .ok (.integer magnitude)
  else if magnitude = 0 ∨ 1 <<< 63 < magnitude then floating true magnitude 0
  else .ok (.integer (-(magnitude : Int)))

/-- Reads a number after its sign. -/
def scanMagnitude (isNegative : Bool) : Scanner Number
  | cs =>
    let (run, rest) := spanDigits cs
    match run with
    | [] => if rest.isEmpty then .error .endInValue else .error .badNumber
    | '0' :: _ :: _ => .error .badNumber
    | run =>
      let (significand, left) := extend 0 run
      match rest with
      | '.' :: rest => scanFraction isNegative significand left.length rest
      | 'e' :: rest => scanExponent isNegative significand left.length rest
      | 'E' :: rest => scanExponent isNegative significand left.length rest
      | _ =>
        let number :=
          if left.isEmpty then integer isNegative significand
          else floating isNegative significand left.length
        number.map fun n => (n, rest)

/-- Reads a number that starts with a sign or a digit. -/
def scanNumber : Scanner Number
  | '-' :: cs => scanMagnitude true cs
  | cs => scanMagnitude false cs

/-! ### Texts -/

/-- Reads four hexadecimal digits; four bytes of text must be left for them. -/
def scanUnit : Scanner Nat
  | cs =>
    if (String.ofList (cs.take 4)).utf8ByteSize < 4 then .error .endInText
    else
      match cs with
      | a :: b :: c :: d :: rest =>
        match Hex.value? a, Hex.value? b, Hex.value? c, Hex.value? d with
        | some a, some b, some c, some d => .ok (((a * 16 + b) * 16 + c) * 16 + d, rest)
        | _, _, _, _ => .error .badEscape
      | _ => .error .badEscape

/-- Reads a numbered character after its letter: one unit, or two that make a pair. -/
def scanNumbered : Scanner Char
  | cs =>
    match scanUnit cs with
    | .error fault => .error fault
    | .ok (unit, rest) =>
      if 0xDC00 ≤ unit ∧ unit ≤ 0xDFFF then .error .loneSurrogate
      else if unit < 0xD800 ∨ 0xDBFF < unit then .ok (Char.ofNat unit, rest)
      else
        match rest with
        | [] => .error .endInText
        | ['\\'] => .error .endInText
        | '\\' :: 'u' :: rest =>
          match scanUnit rest with
          | .error fault => .error fault
          | .ok (second, rest) =>
            if second < 0xDC00 ∨ 0xDFFF < second then .error .loneSurrogate
            else .ok (Char.ofNat (0x10000 + (unit - 0xD800) * 1024 + (second - 0xDC00)), rest)
        | _ => .error .brokenSurrogatePair

/-- The character that a letter after a backslash stands for. -/
def escapeOf? (c : Char) : Option Char :=
  match c with
  | '"' => some '"'
  | '\\' => some '\\'
  | '/' => some '/'
  | 'b' => some '\x08'
  | 'f' => some '\x0c'
  | 'n' => some '\n'
  | 'r' => some '\r'
  | 't' => some '\t'
  | _ => none

/-- Reads an escape after its backslash. -/
def scanEscape : Scanner Char
  | [] => .error .endInText
  | 'u' :: rest => scanNumbered rest
  | c :: rest =>
    match escapeOf? c with
    | some value => .ok (value, rest)
    | none => .error .badEscape

/-- Passes over an escape after its backslash; numbered characters need not make pairs. -/
def skipEscape : List Char → Except Fault (List Char)
  | [] => .error .endInText
  | 'u' :: rest => (scanUnit rest).map Prod.snd
  | c :: rest => if (escapeOf? c).isSome then .ok rest else .error .badEscape

/-- Reads a text up to its closing quote, in at most `fuel` steps. -/
def scanTextWithin (fuel : Nat) : Scanner (List Char)
  | [] => .error .endInText
  | '"' :: rest => .ok ([], rest)
  | c :: rest =>
    match fuel with
    | 0 => .error .endInText
    | fuel + 1 =>
      if c = '\\' then
        match scanEscape rest with
        | .error fault => .error fault
        | .ok (value, rest) =>
          match scanTextWithin fuel rest with
          | .error fault => .error fault
          | .ok (cs, rest) => .ok (value :: cs, rest)
      else if c.toNat < 0x20 then .error .controlCharacter
      else
        match scanTextWithin fuel rest with
        | .error fault => .error fault
        | .ok (cs, rest) => .ok (c :: cs, rest)

/-- Reads a text after its opening quote. -/
def scanText : Scanner String
  | cs => (scanTextWithin cs.length cs).map fun (text, rest) => (String.ofList text, rest)

/-- Passes over a text up to its closing quote, in at most `fuel` steps. -/
def skipTextWithin (fuel : Nat) : List Char → Except Fault (List Char)
  | [] => .error .endInText
  | '"' :: rest => .ok rest
  | c :: rest =>
    match fuel with
    | 0 => .error .endInText
    | fuel + 1 =>
      if c = '\\' then
        match skipEscape rest with
        | .error fault => .error fault
        | .ok rest => skipTextWithin fuel rest
      else if c.toNat < 0x20 then .error .controlCharacter
      else skipTextWithin fuel rest

/-- Passes over a text after its opening quote. -/
def skipText (cs : List Char) : Except Fault (List Char) :=
  skipTextWithin cs.length cs

end ConfigReplica.Json
