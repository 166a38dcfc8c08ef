import ConfigReplica.Text.EscapeTable

/-!
# Quoted texts in messages

How a message shows a character or a text exactly: between quotes, with the quote itself, the
backslash and the common controls written with a backslash, and every character without a face of
its own by its number.
-/

namespace ConfigReplica.Text

/-- A character as it is written between quotes of kind `quote`. -/
def escaped (quote c : Char) : List Char :=
  if c = '\x00' then ['\\', '0']
  else if c = '\t' then ['\\', 't']
  else if c = '\r' then ['\\', 'r']
  else if c = '\n' then ['\\', 'n']
  else if c = quote ∨ c = '\\' then ['\\', c]
  else if inRanges escapedRanges c.toNat then
    ['\\', 'u', '\x7b'] ++ Nat.toDigits 16 c.toNat ++ ['\x7d']
  else [c]

/-- A character between single quotes. -/
def quotedChar (c : Char) : String :=
  String.ofList (['\''] ++ escaped '\'' c ++ ['\''])

/-- A text between double quotes. -/
def quoted (text : String) : String :=
  String.ofList (['"'] ++ text.toList.flatMap (escaped '"') ++ ['"'])

end ConfigReplica.Text
