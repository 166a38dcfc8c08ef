import ConfigReplica.Identity
import ConfigReplica.Proofs.Hexadecimal
import ConfigReplica.Proofs.Text.Trimming

/-!
# Which texts are identities

The texts that are read as identities, told without the reader: 66 hexadecimal digits of either case
(`Identity.IsText`), with blanks around them or not (`Text.Trimmed`). The reader accepts these texts
and no others, and what it read is shown as the digits in lower case (`Identity.parse_iff_digits`).

An identity is shown in one way only, without blanks and in lower case, and is read back from that
(`Identity.parse_hex`). So what is kept under this text is kept under the identity
(`Identity.hex_inj`).

The first two digits are those of the tag. The tag of groups is written `03`, which is the same in
either case, so that a text is one of a group exactly if its digits begin like that
(`Identity.tag_eq_iff`).
-/

namespace ConfigReplica

namespace Identity

/-! ### Bytes of an identity -/

/-- An identity is made of its own bytes. -/
theorem ofBytes_bytes (id : Identity) : ofBytes id.bytes = .ok id := by
  unfold ofBytes bytes
  dsimp only
  rw [dif_pos Vector.length_toList]
  rfl

/-- An identity is made of its own bytes and no others. -/
theorem ofBytes_eq_ok_iff {bytes : Bytes} {id : Identity} :
    ofBytes bytes = .ok id ↔ bytes = id.bytes := by
  constructor
  · intro made
    unfold ofBytes at made
    split at made
    · cases made
    · split at made
      · cases made
        rfl
      · cases made
  · rintro rfl
    exact ofBytes_bytes id

/-- There is an identity for any bytes of the right number. -/
theorem exists_ofBytes_iff {bytes : Bytes} :
    (∃ id, ofBytes bytes = .ok id) ↔ bytes.length = size := by
  constructor
  · rintro ⟨id, made⟩
    rw [ofBytes_eq_ok_iff.mp made]
    exact congrArg (· + 1) Vector.length_toList
  · intro length
    cases bytes with
    | nil => cases length
    | cons tag key =>
      have rest : key.length = 32 := Nat.succ.inj length
      exact ⟨_, dif_pos rest⟩

/-! ### Digits of an identity -/

/-- **The digits of an identity**, of either case. -/
structure IsText (cs : List Char) : Prop where
  length : cs.length = 66
  digits : ∀ c ∈ cs, Hex.IsDigit c

/-- A text is read as an identity if what is left between the blanks stands for its bytes. -/
theorem parse_eq_ok_iff {text : String} {id : Identity} :
    parse text = .ok id ↔ Hex.decode (String.ofList (Text.trim text.toList)) = .ok id.bytes := by
  unfold parse
  split
  · next fault refused =>
    rw [refused]
    exact ⟨nofun, nofun⟩
  · next bytes decoded =>
    rw [decoded, ofBytes_eq_ok_iff, Except.ok.injEq]

/-- **Which texts are identities.** -/
theorem exists_parse_iff (text : String) :
    (∃ id, parse text = .ok id) ↔ IsText (Text.trim text.toList) := by
  have bytes := Hex.decodes_iff (String.ofList (Text.trim text.toList)) size
  rw [String.toList_ofList] at bytes
  calc (∃ id, parse text = .ok id)
      ↔ ∃ bytes, Hex.decode (String.ofList (Text.trim text.toList)) = .ok bytes ∧
          bytes.length = size := by
        simp only [parse_eq_ok_iff, ← exists_ofBytes_iff, ofBytes_eq_ok_iff]
        constructor
        · rintro ⟨id, decoded⟩
          exact ⟨_, decoded, id, rfl⟩
        · rintro ⟨_, decoded, id, rfl⟩
          exact ⟨id, decoded⟩
    _ ↔ (Text.trim text.toList).length = 2 * size ∧
          ∀ c ∈ Text.trim text.toList, Hex.IsDigit c := bytes
    _ ↔ IsText (Text.trim text.toList) := ⟨fun ⟨length, digits⟩ => ⟨length, digits⟩,
          fun ⟨length, digits⟩ => ⟨length, digits⟩⟩

/-- An identity is shown as the digits that it was read from, in lower case. -/
theorem hex_of_parse {text : String} {id : Identity} (parsed : parse text = .ok id) :
    id.hex = String.ofList ((Text.trim text.toList).map Text.lowerAscii) := by
  have written := Hex.encode_of_decode (parse_eq_ok_iff.mp parsed)
  rw [String.toList_ofList] at written
  exact written

/-- **Identities are read as they are shown.** -/
theorem parse_hex (id : Identity) : parse id.hex = .ok id := by
  have chars : id.hex.toList = Hex.encodeChars id.bytes := String.toList_ofList
  have plain : Text.trim id.hex.toList = id.hex.toList := by
    apply Text.trim_of_plain
    intro c mem
    exact (Hex.isDigit_of_mem_encodeChars (chars ▸ mem)).plain.2
  rw [parse_eq_ok_iff, plain, String.ofList_toList]
  exact Hex.decode_encode id.bytes

/-- Different identities are shown differently. -/
theorem hex_inj {id other : Identity} (same : id.hex = other.hex) : id = other := by
  have read := parse_hex id
  rw [same, parse_hex] at read
  exact (Except.ok.inj read).symm

/-- A text is read as the identity that is shown as its digits in lower case. -/
theorem parse_eq_ok_iff_hex {text : String} {id : Identity} :
    parse text = .ok id ↔ IsText (Text.trim text.toList) ∧
      id.hex = String.ofList ((Text.trim text.toList).map Text.lowerAscii) := by
  constructor
  · intro parsed
    exact ⟨(exists_parse_iff text).mp ⟨id, parsed⟩, hex_of_parse parsed⟩
  · rintro ⟨isText, shown⟩
    obtain ⟨other, parsed⟩ := (exists_parse_iff text).mpr isText
    obtain rfl : other = id := hex_inj ((hex_of_parse parsed).trans shown.symm)
    exact parsed

/-! ### Groups -/

/-- The digits of the tag of groups are the same in either case. -/
theorem lowerAscii_eq_iff (c : Char) :
    (Text.lowerAscii c = '0' ↔ c = '0') ∧ (Text.lowerAscii c = '3' ↔ c = '3') := by
  by_cases ascii : c.toNat < 128
  · exact forall_ascii (P := fun c => (Text.lowerAscii c = '0' ↔ c = '0') ∧
      (Text.lowerAscii c = '3' ↔ c = '3')) (by decide +kernel) ascii
  · rw [Text.lowerAscii_of_le (Nat.le_of_not_lt ascii)]
    exact ⟨Iff.rfl, Iff.rfl⟩

/-- The tag of groups is told by its two digits. -/
theorem eq_groupTag_iff (tag : UInt8) :
    tag = groupTag ↔ Hex.digit (tag.toNat / 16) = '0' ∧ Hex.digit (tag.toNat % 16) = '3' :=
  forall_byte (P := fun tag => tag = groupTag ↔
    Hex.digit (tag.toNat / 16) = '0' ∧ Hex.digit (tag.toNat % 16) = '3') (by decide +kernel) tag

/-- **The tag is read from the first two digits.** -/
theorem tag_eq_iff {text : String} {id : Identity} (parsed : parse text = .ok id) :
    id.tag = groupTag ↔ ['0', '3'] <+: Text.trim text.toList := by
  have chars := congrArg String.toList (hex_of_parse parsed)
  rw [String.toList_ofList] at chars
  have shown : id.hex.toList = Hex.digit (id.tag.toNat / 16) :: Hex.digit (id.tag.toNat % 16) ::
      Hex.encodeChars id.key.toList := String.toList_ofList
  rw [shown] at chars
  rw [eq_groupTag_iff]
  -- the text has two characters of which these digits are the lower case
  cases left : Text.trim text.toList with
  | nil =>
    rw [left] at chars
    cases chars
  | cons a rest =>
    cases rest with
    | nil =>
      rw [left] at chars
      cases (List.cons.inj chars).2
    | cons b rest =>
      rw [left, List.map_cons, List.map_cons] at chars
      obtain ⟨high, chars⟩ := List.cons.inj chars
      obtain ⟨low, -⟩ := List.cons.inj chars
      rw [high, low, (lowerAscii_eq_iff a).1, (lowerAscii_eq_iff b).2, List.cons_prefix_cons,
        List.cons_prefix_cons]
      exact ⟨fun ⟨first, second⟩ => ⟨first.symm, second.symm, List.nil_prefix⟩,
        fun ⟨first, second, _⟩ => ⟨first.symm, second.symm⟩⟩

end Identity

namespace GroupId

/-- A text is read as a group if it is read as an identity with the tag of groups. -/
theorem parse_eq_ok_iff {text : String} {group : GroupId} :
    parse text = .ok group ↔
      Identity.parse text = .ok group.identity ∧ group.identity.tag = Identity.groupTag := by
  unfold parse
  cases Identity.parse text with
  | error fault => exact ⟨nofun, nofun⟩
  | ok id =>
    dsimp only
    -- the tag decides
    unfold ofIdentity Identity.isGroup
    split
    · next tagged =>
      have tagged : id.tag = Identity.groupTag := eq_of_beq tagged
      constructor
      · intro made
        cases made
        exact ⟨rfl, tagged⟩
      · rintro ⟨same, -⟩
        cases same
        rfl
    · next other =>
      refine ⟨nofun, ?_⟩
      rintro ⟨same, tagged⟩
      cases same
      exact absurd (beq_iff_eq.mpr tagged) other

/-- **Which texts are groups.** -/
theorem exists_parse_iff (text : String) :
    (∃ group, parse text = .ok group) ↔
      Identity.IsText (Text.trim text.toList) ∧ ['0', '3'] <+: Text.trim text.toList := by
  rw [← Identity.exists_parse_iff]
  constructor
  · rintro ⟨group, parsed⟩
    obtain ⟨parsed, tagged⟩ := parse_eq_ok_iff.mp parsed
    exact ⟨⟨_, parsed⟩, (Identity.tag_eq_iff parsed).mp tagged⟩
  · rintro ⟨⟨id, parsed⟩, begins⟩
    exact ⟨⟨id⟩, parse_eq_ok_iff.mpr ⟨parsed, (Identity.tag_eq_iff parsed).mpr begins⟩⟩

end GroupId

/-- **A text is read as an identity exactly if it is one.** What trimming leaves of a text is the
text without the blanks around it. If these are 66 hexadecimal digits of either case, the text is
read, and otherwise it is not; what is read is shown as these digits in lower case. A text is read
as a group exactly if the digits begin with those of the tag of groups, and then as the identity
that it is read as. What an identity is shown as is read as the identity. -/
theorem Identity.parse_iff_digits :
    (∀ text : String, Text.Trimmed text.toList (Text.trim text.toList) ∧
      ((∃ id, parse text = .ok id) ↔ IsText (Text.trim text.toList)) ∧
      (∀ id, parse text = .ok id ↔ IsText (Text.trim text.toList) ∧
        id.hex = String.ofList ((Text.trim text.toList).map Text.lowerAscii)) ∧
      ((∃ group, GroupId.parse text = .ok group) ↔
        IsText (Text.trim text.toList) ∧ ['0', '3'] <+: Text.trim text.toList) ∧
      ∀ group, GroupId.parse text = .ok group ↔
        parse text = .ok group.identity ∧ group.identity.tag = 0x03) ∧
    ∀ id : Identity, parse id.hex = .ok id :=
  ⟨fun text => ⟨Text.trimmed_trim _, exists_parse_iff text, fun _ => parse_eq_ok_iff_hex,
    GroupId.exists_parse_iff text, fun _ => GroupId.parse_eq_ok_iff⟩, parse_hex⟩

/-- A group between blanks, in upper case. -/
example :
    let text := "\u2003\t03" ++ String.ofList (List.replicate 64 'A') ++ "\n"
    (GroupId.parse text).toOption.map GroupId.hex =
      some ("03" ++ String.ofList (List.replicate 64 'a')) := by
  decide +kernel

end ConfigReplica
