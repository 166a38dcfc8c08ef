import ConfigReplica.Proofs.Hexadecimal
import ConfigReplica.Proofs.Text.Trimming
import ConfigReplica.Routing.Node

/-!
# Texts of nodes

A node that was read from a text has a text that reads back as the node
(`Node.parse_text_of_parse`). The text that it was read from may be another one: it may have blanks
around it, a port with zeros or a plus sign in front, and keys in upper case. What matters is what
is left of all that once it was read (`Node.Sound`): an address that begins with no blank, and keys
of hexadecimal digits in lower case, which hold neither blanks nor hyphens. With such keys alone the
text of a node reads back as the node but for the blanks that its address begins with
(`Node.parse_text`).
-/

namespace ConfigReplica

/-! ### Keys -/

namespace Routing.Node

/-- A key as nodes hold it: 32 bytes in hexadecimal digits, none of them in upper case. -/
structure IsKey (key : String) : Prop where
  decodes : ∃ bytes, Hex.decode key = .ok bytes ∧ bytes.length = 32
  lower : key.toList.map Text.lowerAscii = key.toList

/-- A key that was checked is one. -/
theorem IsKey.of_checkKey {name key kept : String} (checked : checkKey name key = .ok kept) :
    IsKey kept := by
  unfold checkKey at checked
  split at checked
  · cases checked
  · next bytes decoded =>
    split at checked
    · next size =>
      cases checked
      refine ⟨⟨bytes, Hex.decode_lower decoded, size⟩, ?_⟩
      rw [String.toList_ofList, List.map_map]
      exact List.map_congr_left fun c _ => Text.lowerAscii_lowerAscii c
    · cases checked

namespace IsKey

variable {key : String}

/-- Such a key passes and is kept. -/
theorem checkKey_eq (isKey : IsKey key) (name : String) : checkKey name key = .ok key := by
  obtain ⟨bytes, decoded, size⟩ := isKey.decodes
  unfold checkKey
  rw [decoded]
  dsimp only
  rw [if_pos size, isKey.lower, String.ofList_toList]

/-- It holds neither hyphens nor blanks. -/
theorem of_mem (isKey : IsKey key) {c : Char} (mem : c ∈ key.toList) :
    c ≠ '-' ∧ Text.isBlank c = false := by
  obtain ⟨bytes, decoded, -⟩ := isKey.decodes
  exact (Hex.isDigit_of_decode decoded c mem).plain

theorem hyphen_notMem (isKey : IsKey key) : '-' ∉ key.toList :=
  fun mem => (isKey.of_mem mem).1 rfl

/-- It is not empty. -/
theorem toList_ne_nil (isKey : IsKey key) : key.toList ≠ [] := by
  obtain ⟨bytes, decoded, size⟩ := isKey.decodes
  intro empty
  rw [String.toList_eq_nil_iff.mp empty] at decoded
  cases decoded
  cases size

end IsKey

/-! ### Ports -/

theorem le_ofDigitChars (n : Nat) (cs : List Char) : n ≤ Nat.ofDigitChars 10 cs n := by
  induction cs generalizing n with
  | nil => exact Nat.le_refl n
  | cons c cs ih =>
    rw [Nat.ofDigitChars_cons]
    exact Nat.le_trans (by omega) (ih _)

/-- Digits that come to no more than a port may be are read as the number they stand for. -/
theorem readPort_eq {n : Nat} {cs : List Char} (digits : ∀ c ∈ cs, c.isDigit)
    (fits : Nat.ofDigitChars 10 cs n ≤ 65535) : readPort n cs = .ok (Nat.ofDigitChars 10 cs n) := by
  induction cs generalizing n with
  | nil => rfl
  | cons c cs ih =>
    rw [List.forall_mem_cons] at digits
    rw [Nat.ofDigitChars_cons] at fits ⊢
    -- the number only grows with the digits that follow
    have next := Nat.le_trans (le_ofDigitChars _ cs) fits
    rw [readPort, digits.1]
    dsimp only
    rw [if_neg (by decide), if_neg (by omega)]
    exact ih digits.2 fits

/-- The digits of a port are read as the port. -/
theorem parsePort_digits (port : UInt16) : parsePort (Decimal.digits port.toNat) = .ok port := by
  have digits {c : Char} (mem : c ∈ Decimal.digits port.toNat) : c.isDigit :=
    Decimal.isDigit_of_mem_digits mem
  have value : Nat.ofDigitChars 10 (Decimal.digits port.toNat) 0 = port.toNat :=
    Decimal.value_digits port.toNat
  have read : readPort 0 (Decimal.digits port.toNat) = .ok port.toNat := by
    rw [readPort_eq (fun c => digits), value]
    rw [value]
    exact Nat.le_of_lt_succ port.toNat_lt
  unfold parsePort
  split
  · next c rest plus =>
    -- a plus sign is no digit
    have sign : '+'.isDigit := digits (by rw [plus]; exact .head _)
    cases sign
  · dsimp only
    rw [if_neg (by simpa using Decimal.digits_ne_nil port.toNat), read]
    exact congrArg Except.ok (UInt16.ofNat_toNat)

/-! ### Parts of a text -/

/-- A text is cut at its last hyphen. -/
theorem cutLast?_append {front back : List Char} (none : '-' ∉ back) :
    cutLast? (front ++ '-' :: back) = some (front, back) := by
  -- from the end, all is passed over up to the hyphen
  have passed : ∀ c ∈ back.reverse, decide (c ≠ '-') = true := by
    intro c mem
    refine decide_eq_true fun same => none ?_
    rw [← same]
    exact List.mem_reverse.mp mem
  have turned : (front ++ '-' :: back).reverse = back.reverse ++ '-' :: front.reverse := by
    simp
  unfold cutLast?
  dsimp only
  rw [turned, List.dropWhile_append_of_pos passed, List.takeWhile_append_of_pos passed]
  simp

/-- What was cut at a hyphen was joined by it. -/
theorem eq_of_cutLast? {cs front back : List Char} (cut : cutLast? cs = some (front, back)) :
    cs = front ++ '-' :: back := by
  unfold cutLast? at cut
  dsimp only at cut
  split at cut
  · cases cut
  · next c rest found =>
    cases cut
    have hyphen : c = '-' := by
      have head := List.head?_dropWhile_not (· ≠ '-') cs.reverse
      rw [found] at head
      simpa using head
    have both := List.takeWhile_append_dropWhile (p := (· ≠ '-')) (l := cs.reverse)
    rw [found, hyphen] at both
    have turned := congrArg List.reverse both
    simpa using turned.symm

/-- A text is cut into its four parts, and only the last three may have no hyphen. -/
theorem cut?_of_parts {address port ed25519 x25519 : List Char} (noneInPort : '-' ∉ port)
    (noneInEd : '-' ∉ ed25519) (noneInX : '-' ∉ x25519) :
    cut? (address ++ '-' :: (port ++ '-' :: (ed25519 ++ '-' :: x25519))) =
      some (address, port, ed25519, x25519) := by
  -- the address may have hyphens, so the text is joined from its end
  have joined : address ++ '-' :: (port ++ '-' :: (ed25519 ++ '-' :: x25519)) =
      (((address ++ '-' :: port) ++ '-' :: ed25519) ++ '-' :: x25519) := by
    simp
  unfold cut?
  rw [joined, cutLast?_append noneInX]
  dsimp only [bind, Option.bind]
  rw [cutLast?_append noneInEd]
  dsimp only
  rw [cutLast?_append noneInPort]

/-- Four parts that were cut are joined by hyphens. -/
theorem eq_of_cut? {cs address port ed25519 x25519 : List Char}
    (cut : cut? cs = some (address, port, ed25519, x25519)) :
    cs = address ++ '-' :: (port ++ '-' :: (ed25519 ++ '-' :: x25519)) := by
  obtain ⟨⟨rest, x⟩, last, cut⟩ := Option.bind_eq_some_iff.mp cut
  obtain ⟨⟨rest', ed⟩, second, cut⟩ := Option.bind_eq_some_iff.mp cut
  obtain ⟨⟨front, number⟩, first, cut⟩ := Option.bind_eq_some_iff.mp cut
  cases cut
  rw [eq_of_cutLast? last, eq_of_cutLast? second, eq_of_cutLast? first]
  simp

/-- No digit is a hyphen. -/
theorem hyphen_notMem_digits (n : Nat) : '-' ∉ Decimal.digits n := by
  intro mem
  have digit : '-'.isDigit := Decimal.isDigit_of_mem_digits mem
  cases digit

/-! ### Nodes that were read -/

/-- What holds of a node that was read. -/
structure Sound (node : Node) : Prop where
  address : ∃ c rest, node.address.toList = c :: rest ∧ Text.isBlank c = false
  ed25519 : IsKey node.ed25519
  x25519 : IsKey node.x25519

/-- Parts make a node if the address is not empty and both keys pass. -/
theorem ofParts_eq_ok {address ed25519 x25519 : String} {port : UInt16} {node : Node} :
    ofParts address port ed25519 x25519 = .ok node ↔
      address.isEmpty = false ∧ ∃ ed x, checkKey "ed25519" ed25519 = .ok ed ∧
        checkKey "x25519" x25519 = .ok x ∧ node = ⟨address, port, ed, x⟩ := by
  unfold ofParts
  cases address.isEmpty with
  | true => exact ⟨nofun, nofun⟩
  | false =>
    cases checkKey "ed25519" ed25519 with
    | error fault => exact ⟨nofun, nofun⟩
    | ok ed =>
      cases checkKey "x25519" x25519 with
      | error fault => exact ⟨nofun, nofun⟩
      | ok x =>
        refine ⟨fun made => ?_, ?_⟩
        · cases made
          exact ⟨rfl, ed, x, rfl, rfl, rfl⟩
        · rintro ⟨-, _, _, ⟨⟩, ⟨⟩, rfl⟩
          rfl

/-- Of what was read, the address is not empty and both keys passed. -/
theorem Sound.of_parse {text : String} {node : Node} (parsed : parse text = .ok node) :
    node.Sound := by
  unfold parse at parsed
  split at parsed
  · cases parsed
  · next address port ed25519 x25519 cut =>
    split at parsed
    · cases parsed
    · next number _ =>
      obtain ⟨some, ed, x, checkedEd, checkedX, rfl⟩ := ofParts_eq_ok.mp parsed
      refine ⟨?_, .of_checkKey checkedEd, .of_checkKey checkedX⟩
      -- the address is the front of the trimmed text
      dsimp only
      rw [String.toList_ofList]
      have trimmed := eq_of_cut? cut
      cases address with
      | nil => cases some
      | cons c rest => exact ⟨c, rest, rfl, Text.isBlank_of_trim trimmed⟩

/-- The text of a node, part by part. -/
theorem toList_text (node : Node) :
    node.text.toList = node.address.toList ++ '-' :: (Decimal.digits node.port.toNat ++
      '-' :: (node.ed25519.toList ++ '-' :: node.x25519.toList)) := by
  simp [text, Decimal.ofNat]

/-- Trimming the text of a node takes the blanks that its address begins with. -/
theorem trim_text {node : Node} (key : IsKey node.x25519) :
    Text.trim node.text.toList = node.address.toList.dropWhile Text.isBlank ++
      '-' :: (Decimal.digits node.port.toNat ++
        '-' :: (node.ed25519.toList ++ '-' :: node.x25519.toList)) := by
  have ends := List.dropLast_concat_getLast key.toList_ne_nil
  have last := (key.of_mem (List.getLast_mem key.toList_ne_nil)).2
  have trimmed := Text.trim_append (c := '-') rfl last node.address.toList
    (Decimal.digits node.port.toNat ++ '-' :: (node.ed25519.toList ++
      '-' :: node.x25519.toList.dropLast))
  simp only [List.cons_append, List.append_assoc, ends] at trimmed
  rw [toList_text, trimmed]

/-- **The text of a node** reads back as its parts, the address without the blanks that it begins
with. -/
theorem parse_text {node : Node} (ed25519 : IsKey node.ed25519) (x25519 : IsKey node.x25519) :
    parse node.text = ofParts (String.ofList (node.address.toList.dropWhile Text.isBlank))
      node.port node.ed25519 node.x25519 := by
  unfold parse
  rw [trim_text x25519,
    cut?_of_parts (hyphen_notMem_digits _) ed25519.hyphen_notMem x25519.hyphen_notMem]
  dsimp only
  rw [parsePort_digits]
  dsimp only
  rw [String.ofList_toList, String.ofList_toList]

/-- The text of a sound node reads back as the node. -/
theorem Sound.parse_text {node : Node} (sound : node.Sound) : parse node.text = .ok node := by
  obtain ⟨c, rest, address, begins⟩ := sound.address
  have whole : node.address.toList.dropWhile Text.isBlank = node.address.toList := by
    rw [address, List.dropWhile_cons, begins]
    rfl
  have some : node.address.isEmpty = false := by
    rw [String.isEmpty_eq_false_iff]
    intro empty
    rw [empty] at address
    cases address
  rw [Node.parse_text sound.ed25519 sound.x25519, whole, String.ofList_toList]
  exact ofParts_eq_ok.mpr ⟨some, _, _, sound.ed25519.checkKey_eq _, sound.x25519.checkKey_eq _, rfl⟩

/-- **A node that was read** has a text that reads back as the node. -/
theorem parse_text_of_parse {text : String} {node : Node} (parsed : parse text = .ok node) :
    parse node.text = .ok node :=
  (Sound.of_parse parsed).parse_text

end Routing.Node

end ConfigReplica
