import ConfigReplica.Decimal.Digits
import ConfigReplica.Text.Quoted

/-!
# Faults of stored JSON

Every way in which a JSON text can be refused, as a cause, with its wording in one place
(`Fault.message`). A text may be no JSON at all, or JSON of another kind than the reader wants; what
was found instead is a `Found`.
-/

namespace ConfigReplica.Json

/-- What a reader found where it wanted something else. -/
inductive Found where
  | null
  | boolean (value : Bool)
  | integer (value : Int)
  /-- A number that is no integer of 64 bits, as it is shown. -/
  | floating (text : String)
  | text (value : String)
  | sequence
  | object
  /-- A choice named without the content that it needs. -/
  | bareChoice
  deriving DecidableEq, Repr

/-- Why a JSON text is refused. -/
inductive Fault where
  | endInValue
  | endInList
  | endInObject
  | endInText
  | valueExpected
  | wordExpected
  | badNumber
  | numberOutOfRange
  | trailingCharacters
  | trailingComma
  | listGoesOn
  | objectGoesOn
  | colonExpected
  | keyExpected
  | controlCharacter
  | badEscape
  | loneSurrogate
  | brokenSurrogatePair
  | tooDeep
  | wrongType (found : Found) (wanted : String)
  | wrongValue (found : Found) (wanted : String)
  | wrongLength (length : Nat) (wanted : String)
  | missingField (name : String)
  | duplicateField (name : String)
  | unknownChoice (name : String) (choices : List String)
  deriving DecidableEq, Repr

/-- How a message names what was found. -/
def Found.message : Found → String
  | .null => "null"
  | .boolean value => if value then "boolean `true`" else "boolean `false`"
  | .integer value => "integer `" ++ Decimal.ofInt value ++ "`"
  | .floating shown => "floating point `" ++ shown ++ "`"
  | .text value => "string " ++ Text.quoted value
  | .sequence => "sequence"
  | .object => "map"
  | .bareChoice => "unit variant"

/-- A list of alternatives in a message. -/
def alternatives (choices : List String) : String :=
  let shown := choices.map fun name => "`" ++ name ++ "`"
  match shown with
  | [one] => one
  | [one, two] => one ++ " or " ++ two
  | _ => "one of " ++ ", ".intercalate shown

/-- The wording of a fault. -/
def Fault.message : Fault → String
  | .endInValue => "EOF while parsing a value"
  | .endInList => "EOF while parsing a list"
  | .endInObject => "EOF while parsing an object"
  | .endInText => "EOF while parsing a string"
  | .valueExpected => "expected value"
  | .wordExpected => "expected ident"
  | .badNumber => "invalid number"
  | .numberOutOfRange => "number out of range"
  | .trailingCharacters => "trailing characters"
  | .trailingComma => "trailing comma"
  | .listGoesOn => "expected `,` or `]`"
  | .objectGoesOn => "expected `,` or `\x7d`"
  | .colonExpected => "expected `:`"
  | .keyExpected => "key must be a string"
  | .controlCharacter => "control character (\\u0000-\\u001F) found while parsing a string"
  | .badEscape => "invalid escape"
  | .loneSurrogate => "lone leading surrogate in hex escape"
  | .brokenSurrogatePair => "unexpected end of hex escape"
  | .tooDeep => "recursion limit exceeded"
  | .wrongType found wanted => "invalid type: " ++ found.message ++ ", expected " ++ wanted
  | .wrongValue found wanted => "invalid value: " ++ found.message ++ ", expected " ++ wanted
  | .wrongLength length wanted =>
    "invalid length " ++ Decimal.ofNat length ++ ", expected " ++ wanted
  | .missingField name => "missing field `" ++ name ++ "`"
  | .duplicateField name => "duplicate field `" ++ name ++ "`"
  | .unknownChoice name choices =>
    "unknown variant `" ++ name ++ "`, expected " ++ alternatives choices

end ConfigReplica.Json
