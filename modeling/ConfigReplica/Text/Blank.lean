/-!
# Blank characters

The characters that are trimmed off the ends of identifiers and node texts: those with the Unicode
property of white space. `trim` cuts them off both ends and leaves the middle alone.
-/

namespace ConfigReplica.Text

/-- Unicode white space. -/
def isBlank (c : Char) : Bool :=
  let code := c.toNat
  (0x9 ≤ code && code ≤ 0xD) || code == 0x20 || code == 0x85 || code == 0xA0 || code == 0x1680 ||
    (0x2000 ≤ code && code ≤ 0x200A) || code == 0x2028 || code == 0x2029 || code == 0x202F ||
    code == 0x205F || code == 0x3000

/-- The characters without the blank ones at their end. -/
def trimRight (cs : List Char) : List Char :=
  (cs.reverse.dropWhile isBlank).reverse

/-- The characters without the blank ones at either end. -/
def trim (cs : List Char) : List Char :=
  trimRight (cs.dropWhile isBlank)

@[simp] theorem trim_nil : trim [] = [] := rfl

end ConfigReplica.Text
