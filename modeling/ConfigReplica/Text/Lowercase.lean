import ConfigReplica.Text.CaseTable

/-!
# Lower case

The full Unicode mapping to lower case. Two characters need more than the table: the dotted capital
I becomes two characters, and a capital sigma takes its final form at the end of a word
(`isWordFinal`).
-/

namespace ConfigReplica.Text

/-- The lower-case form of a character by itself. -/
def lowerChar (c : Char) : Char :=
  let code := c.toNat
  match lowerRuns.find? fun (first, last, step, _) =>
    first ≤ code && code ≤ last && (code - first) % step == 0 with
  | some (_, _, _, shift) => Char.ofNat (code + shift).toNat
  | none => c

/-- Whether the first character that case rules do not pass over is a letter with case. -/
def startsCased (cs : List Char) : Bool :=
  match cs.dropWhile fun c => inRanges ignorableRanges c.toNat with
  | [] => false
  | c :: _ => inRanges casedRanges c.toNat

/-- Whether a word ends here: a letter with case stands before, none after. The characters before
are given in reverse. -/
def isWordFinal (before after : List Char) : Bool :=
  startsCased before && !startsCased after

/-- Lower case of a text whose part `before` (in reverse) was passed already. -/
def lowerAfter (before : List Char) : List Char → List Char
  | [] => []
  | c :: rest =>
    let here :=
      if c = 'Σ' then [if isWordFinal before rest then 'ς' else 'σ']
      else if c = 'İ' then ['i', '\u0307']
      else [lowerChar c]
    here ++ lowerAfter (c :: before) rest

/-- The lower-case form of a text. -/
def lower (cs : List Char) : List Char :=
  lowerAfter [] cs

/-- The lower-case form of a letter of the ASCII range, and any other character as it is. -/
def lowerAscii (c : Char) : Char :=
  if 'A' ≤ c ∧ c ≤ 'Z' then Char.ofNat (c.toNat + 32) else c

end ConfigReplica.Text
