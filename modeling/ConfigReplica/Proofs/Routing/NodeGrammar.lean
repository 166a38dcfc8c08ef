import ConfigReplica.Proofs.Routing.StoredNodes

/-!
# Which texts are nodes

The texts that are read as nodes, told without the reader (`Node.Written`): an address, a port and
two keys, joined by hyphens.

* The address is any text that is not empty. It may hold hyphens itself.
* The port is written in decimal digits, with or without a plus sign in front, and comes to 65535 at
  most. It may begin with zeros.
* A key is 64 hexadecimal digits of either case.

Blanks around the text are trimmed before. `Node.parse_iff_written` says that the reader accepts
these texts and no others, and gives the node that was written; that the text of this node is
accepted in turn; and that nodes are told apart by their texts. All of it rests on the last three
parts being free of hyphens, so that there is one way only to take a text apart
(`Node.cut?_of_parts`).
-/

namespace ConfigReplica.Routing.Node

/-! ### Written forms -/

/-- The digits stand for a port. -/
structure PortDigits (cs : List Char) (port : UInt16) : Prop where
  some : cs ≠ []
  digits : ∀ c ∈ cs, c.isDigit
  value : Decimal.value cs = port.toNat

/-- **A written port**: digits, with or without a plus sign. -/
inductive PortText : List Char → UInt16 → Prop
  | bare {cs : List Char} {port : UInt16} (digits : PortDigits cs port) : PortText cs port
  | signed {cs : List Char} {port : UInt16} (digits : PortDigits cs port) :
      PortText ('+' :: cs) port

/-- **A written key**: 64 hexadecimal digits, and the key in lower case. -/
structure KeyText (cs : List Char) (key : String) : Prop where
  length : cs.length = 64
  digits : ∀ c ∈ cs, Hex.IsDigit c
  lower : key = String.ofList (cs.map Text.lowerAscii)

/-- **A written node**: address, port and keys, joined by hyphens. -/
inductive Written : List Char → Node → Prop
  | mk {address number ed x : List Char} {port : UInt16} {ed25519 x25519 : String}
      (some : address ≠ []) (portText : PortText number port) (edText : KeyText ed ed25519)
      (xText : KeyText x x25519) :
      Written (address ++ '-' :: (number ++ '-' :: (ed ++ '-' :: x)))
        ⟨String.ofList address, port, ed25519, x25519⟩

/-! ### Ports -/

/-- No more than the greatest port is read, and only digits. -/
theorem of_readPort {n m : Nat} {cs : List Char} (start : n ≤ 65535)
    (read : readPort n cs = .ok m) :
    (∀ c ∈ cs, c.isDigit) ∧ Nat.ofDigitChars 10 cs n = m ∧ m ≤ 65535 := by
  -- the induction is on the digits, over what the ones before them came to
  induction cs generalizing n with
  | nil =>
    cases read
    exact ⟨nofun, rfl, start⟩
  | cons c cs ih =>
    rw [readPort] at read
    cases digit : c.isDigit with
    | false =>
      rw [digit] at read
      cases read
    | true =>
      rw [digit] at read
      dsimp only at read
      rw [if_neg (by decide)] at read
      split at read
      · cases read
      · next fits =>
        obtain ⟨digits, value, bound⟩ := ih (Nat.le_of_not_lt fits) read
        refine ⟨List.forall_mem_cons.mpr ⟨digit, digits⟩, ?_, bound⟩
        rw [Nat.ofDigitChars_cons]
        exact value

/-- The digits of a port are read as the port. -/
theorem PortDigits.readPort_eq {cs : List Char} {port : UInt16} (written : PortDigits cs port) :
    readPort 0 cs = .ok port.toNat := by
  have value : Nat.ofDigitChars 10 cs 0 = port.toNat := written.value
  rw [Node.readPort_eq written.digits, value]
  rw [value]
  exact Nat.le_of_lt_succ port.toNat_lt

/-- What is read as a number are digits of a port. -/
theorem PortDigits.of_readPort {cs : List Char} {n : Nat} (some : cs ≠ [])
    (read : readPort 0 cs = .ok n) : PortDigits cs (UInt16.ofNat n) := by
  obtain ⟨digits, value, bound⟩ := Node.of_readPort (Nat.zero_le _) read
  refine ⟨some, digits, value.trans ?_⟩
  rw [UInt16.toNat_ofNat']
  omega

/-- And so is what is read as a port. -/
theorem PortDigits.of_map {cs : List Char} {port : UInt16} (some : cs ≠ [])
    (read : (readPort 0 cs).map UInt16.ofNat = .ok port) : PortDigits cs port := by
  cases run : readPort 0 cs with
  | error fault =>
    rw [run] at read
    cases read
  | ok n =>
    rw [run] at read
    cases read
    exact .of_readPort some run

/-- A plus sign is passed over where something follows it. -/
theorem parsePort_signed (c : Char) (rest : List Char) :
    parsePort ('+' :: c :: rest) = (readPort 0 (c :: rest)).map UInt16.ofNat :=
  rfl

/-- Without a plus sign in front all of the text is read. -/
theorem parsePort_bare {cs : List Char} (some : cs ≠ [])
    (noSign : ∀ c rest, cs ≠ '+' :: c :: rest) :
    parsePort cs = (readPort 0 cs).map UInt16.ofNat := by
  unfold parsePort
  split
  · next c rest => exact absurd rfl (noSign c rest)
  · dsimp only
    rw [List.isEmpty_eq_false_iff.mpr some, if_neg Bool.false_ne_true]

/-- **Which texts are ports.** -/
theorem parsePort_eq_ok_iff {cs : List Char} {port : UInt16} :
    parsePort cs = .ok port ↔ PortText cs port := by
  constructor
  · intro parsed
    -- a plus sign counts as one only where something follows it
    by_cases sign : ∃ c rest, cs = '+' :: c :: rest
    · obtain ⟨c, rest, rfl⟩ := sign
      exact .signed (.of_map (List.cons_ne_nil c rest) parsed)
    · have some : cs ≠ [] := by
        rintro rfl
        cases parsed
      rw [parsePort_bare some fun c rest same => sign ⟨c, rest, same⟩] at parsed
      exact .bare (.of_map some parsed)
  · rintro (written | written)
    · -- digits do not begin with a plus sign, so they are read as they are
      have noSign (c : Char) (rest : List Char) : cs ≠ '+' :: c :: rest := by
        rintro rfl
        have sign : '+'.isDigit := written.digits _ (.head _)
        cases sign
      rw [parsePort_bare written.some noSign, written.readPort_eq]
      exact congrArg Except.ok UInt16.ofNat_toNat
    · obtain ⟨c, rest, rfl⟩ := List.exists_cons_of_ne_nil written.some
      rw [parsePort_signed, written.readPort_eq]
      exact congrArg Except.ok UInt16.ofNat_toNat

/-- A written port has no hyphen. -/
theorem PortText.hyphen_notMem {cs : List Char} {port : UInt16} (written : PortText cs port) :
    '-' ∉ cs := by
  have noDigit {run : List Char} (digits : PortDigits run port) : '-' ∉ run := by
    intro mem
    have hyphen : '-'.isDigit := digits.digits _ mem
    cases hyphen
  rcases written with digits | digits
  · exact noDigit digits
  · intro mem
    rcases List.mem_cons.mp mem with sign | mem
    · cases sign
    · exact noDigit digits mem

/-! ### Keys -/

/-- **Which texts are keys.** -/
theorem checkKey_eq_ok_iff {name : String} {cs : List Char} {key : String} :
    checkKey name (String.ofList cs) = .ok key ↔ KeyText cs key := by
  have digits := Hex.decodes_iff (String.ofList cs) 32
  rw [String.toList_ofList] at digits
  constructor
  · -- a key that passes was decoded, and has 32 bytes
    intro checked
    unfold checkKey at checked
    split at checked
    · cases checked
    · next bytes decoded =>
      split at checked
      · next size =>
        cases checked
        obtain ⟨length, digits⟩ := digits.mp ⟨bytes, decoded, size⟩
        exact ⟨length, digits, by rw [String.toList_ofList]⟩
      · cases checked
  · -- conversely, 64 digits decode to 32 bytes, whatever their case
    rintro ⟨length, all, rfl⟩
    obtain ⟨bytes, decoded, size⟩ := digits.mpr ⟨length, all⟩
    unfold checkKey
    rw [decoded]
    dsimp only
    rw [if_pos size, String.toList_ofList]

/-- Nor has a written key. -/
theorem KeyText.hyphen_notMem {cs : List Char} {key : String} (written : KeyText cs key) :
    '-' ∉ cs :=
  fun mem => (written.digits _ mem).plain.1 rfl

/-! ### Nodes -/

/-- The reader takes a written node apart as it was put together. -/
theorem Written.exists_cut? {cs : List Char} {node : Node} (written : Written cs node) :
    ∃ address number ed x, cut? cs = some (address, number, ed, x) ∧
      node.address = String.ofList address ∧ address ≠ [] ∧ PortText number node.port ∧
      KeyText ed node.ed25519 ∧ KeyText x node.x25519 := by
  cases written with
  | mk some portText edText xText =>
    exact ⟨_, _, _, _,
      cut?_of_parts portText.hyphen_notMem edText.hyphen_notMem xText.hyphen_notMem,
      rfl, some, portText, edText, xText⟩

/-- **Which texts are read as nodes.** -/
theorem parse_eq_ok_iff {text : String} {node : Node} :
    parse text = .ok node ↔ Written (Text.trim text.toList) node := by
  constructor
  · -- the text was cut into four parts, of which each was read
    intro parsed
    unfold parse at parsed
    split at parsed
    · cases parsed
    · next address number ed x cut =>
      split at parsed
      · cases parsed
      · next port read =>
        obtain ⟨some, ed25519, x25519, edText, xText, rfl⟩ := ofParts_eq_ok.mp parsed
        rw [eq_of_cut? cut]
        exact .mk (by simpa using some) (parsePort_eq_ok_iff.mp read)
          (checkKey_eq_ok_iff.mp edText) (checkKey_eq_ok_iff.mp xText)
  · -- a written node is cut at its own hyphens, and then its parts are read
    intro written
    obtain ⟨address, number, ed, x, cut, same, some, portText, edText, xText⟩ :=
      written.exists_cut?
    unfold parse
    rw [cut]
    dsimp only
    rw [parsePort_eq_ok_iff.mpr portText]
    refine ofParts_eq_ok.mpr ⟨by simpa using some, node.ed25519, node.x25519,
      checkKey_eq_ok_iff.mpr edText, checkKey_eq_ok_iff.mpr xText, ?_⟩
    rw [← same]

/-- Nodes with keys that pass are taken apart into what they were made of. -/
theorem cut?_text {node : Node} (ed25519 : IsKey node.ed25519) (x25519 : IsKey node.x25519) :
    cut? node.text.toList = some (node.address.toList, Decimal.digits node.port.toNat,
      node.ed25519.toList, node.x25519.toList) := by
  rw [toList_text,
    cut?_of_parts (hyphen_notMem_digits _) ed25519.hyphen_notMem x25519.hyphen_notMem]

/-- **Different nodes have different texts.** -/
theorem Made.text_injective {a b : Node} (madeA : a.Made) (madeB : b.Made)
    (same : a.text = b.text) : a = b := by
  obtain ⟨-, edA, xA⟩ := madeA.parts
  obtain ⟨-, edB, xB⟩ := madeB.parts
  -- both texts are cut into the parts that their nodes were made of, and the texts are the same
  have parts := cut?_text edA xA
  rw [same, cut?_text edB xB] at parts
  obtain ⟨address, port, ed25519, x25519⟩ :
      b.address.toList = a.address.toList ∧
        Decimal.digits b.port.toNat = Decimal.digits a.port.toNat ∧
        b.ed25519.toList = a.ed25519.toList ∧ b.x25519.toList = a.x25519.toList := by
    simpa using parts
  have number : b.port.toNat = a.port.toNat := by
    have values := congrArg Decimal.value port
    rwa [Decimal.value_digits, Decimal.value_digits] at values
  cases a
  cases b
  simp only [Node.mk.injEq]
  exact ⟨(String.toList_inj.mp address).symm, (UInt16.toNat_inj.mp number).symm,
    (String.toList_inj.mp ed25519).symm, (String.toList_inj.mp x25519).symm⟩

/-- **A text is read as a node exactly if it is one.** Blanks around a text are trimmed; what is left
has to be a written node (`Written`), and this node is read, with the address, the port and the keys
that were written, these in lower case. The text of a node that was read is read as the same node,
and no two nodes that were made of parts have the same text. -/
theorem parse_iff_written :
    (∀ text node, parse text = .ok node ↔ Written (Text.trim text.toList) node) ∧
    (∀ text node, parse text = .ok node → parse node.text = .ok node) ∧
    ∀ a b : Node, a.Made → b.Made → a.text = b.text → a = b :=
  ⟨fun _ _ => parse_eq_ok_iff, fun _ _ => parse_text_of_parse, fun _ _ => Made.text_injective⟩

/-- The text of a node between blanks, with a hyphen in its address, a sign and a zero before its
port, and a key in upper case. -/
def looseText : String :=
  "\u2003a-b-+080-" ++ String.ofList (List.replicate 64 'A') ++ "-" ++
    String.ofList (List.replicate 64 '2') ++ "\n"

/-- The node that it stands for. -/
def looseNode : Node :=
  { address := "a-b"
    port := 80
    ed25519 := String.ofList (List.replicate 64 'a')
    x25519 := String.ofList (List.replicate 64 '2') }

/-- The loose text is read, the node has a text of its own, and nodes that differ in a blank differ
in their texts. -/
theorem parse_iff_written_loose :
    Written (Text.trim looseText.toList) looseNode ∧ parse looseText = .ok looseNode ∧
      looseNode.text ≠ looseText ∧ parse looseNode.text = .ok looseNode ∧
      blankNode.text ≠ (digitNode '1').text := by
  have capital : Hex.IsDigit 'A' := Hex.isSome_value?_iff.mp rfl
  have two : Hex.IsDigit '2' := Hex.isSome_value?_iff.mp rfl
  -- the zero in front does not count, and the plus sign before it is passed over
  have eighty : PortDigits ['0', '8', '0'] 80 := ⟨nofun, List.all_eq_true.mp rfl, rfl⟩
  have edText : KeyText (List.replicate 64 'A') looseNode.ed25519 :=
    ⟨List.length_replicate, fun _ mem => List.eq_of_mem_replicate mem ▸ capital, by decide +kernel⟩
  have xText : KeyText (List.replicate 64 '2') looseNode.x25519 :=
    ⟨List.length_replicate, fun _ mem => List.eq_of_mem_replicate mem ▸ two, by decide +kernel⟩
  have written : Written (Text.trim looseText.toList) looseNode := by
    have trimmed : Text.trim looseText.toList = ['a', '-', 'b'] ++ '-' :: (['+', '0', '8', '0'] ++
        '-' :: (List.replicate 64 'A' ++ '-' :: List.replicate 64 '2')) := by
      decide +kernel
    rw [trimmed]
    exact .mk (List.cons_ne_nil _ _) (.signed eighty) edText xText
  obtain ⟨reads, again, differ⟩ := parse_iff_written
  have read := (reads looseText looseNode).mpr written
  -- the address with a blank makes another node, so its text is another one
  refine ⟨written, read, by decide +kernel, again looseText looseNode read, fun same => ?_⟩
  have plain := differ _ _ (made_digits (.inl rfl) rfl) (made_digits (.inl rfl) rfl) same
  exact absurd plain (by decide +kernel)

end ConfigReplica.Routing.Node
