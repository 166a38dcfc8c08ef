import ConfigReplica.Proofs.IdentityText
import ConfigReplica.Proofs.Session.Effects

/-!
# The rows of objects

Objects of different scopes and variants have different rows (`Scope.slotKey_inj`): the
names of variants have no colon, and the digits of a group are those of no other. What
was stored of an object is read back from its row as long as its frame is not too long
(`Device.loads_of_row`), and the object that is loaded then is the one that was stored,
down to the identifiers that it remembers.
-/

namespace ConfigReplica

open Config

/-- Different groups are shown differently. -/
theorem GroupId.hex_inj {group other : GroupId} (same : group.hex = other.hex) :
    group = other := by
  have identities : group.identity = other.identity := Identity.hex_inj same
  cases group
  cases other
  rw [GroupId.mk.injEq]
  exact identities

namespace Scope

/-- The variants of a scope are those that it admits. -/
theorem mem_variants {scope : Scope} {variant : Variant} :
    variant ∈ scope.variants ↔ scope.admits variant = true := by
  cases scope <;> cases variant <;>
    simp [variants, admits, Variant.ofAccount, Variant.ofGroup, Variant.isGroupScoped]

/-- What the key of a row has after the name of the variant. -/
def keyTail : Scope → List Char
  | .account => []
  | .group id => ':' :: id.hex.toList

/-- The key of a row begins with the name of the variant. -/
theorem toList_slotKey (scope : Scope) (variant : Variant) :
    (scope.slotKey variant).toList = variant.name.toList ++ scope.keyTail := by
  cases scope with
  | account => exact (List.append_nil _).symm
  | group id => simp [slotKey, keyTail]

/-- **Different objects have different rows.** -/
theorem slotKey_inj {scope other : Scope} {variant v : Variant}
    (same : scope.slotKey variant = other.slotKey v) : scope = other ∧ variant = v := by
  have chars := congrArg String.toList same
  -- both keys begin with a name, and what follows begins with a colon if there is anything
  rw [toList_slotKey, toList_slotKey] at chars
  -- the name ends at the colon, or with the key
  have front (scope : Scope) (variant : Variant) :
      (variant.name.toList ++ scope.keyTail).takeWhile (· != ':') = variant.name.toList := by
    have plain : ∀ c ∈ variant.name.toList, c != ':' :=
      List.all_eq_true.mp (by cases variant <;> decide)
    rw [List.takeWhile_append_of_pos plain]
    cases scope <;> simp [keyTail]
  have names : variant.name = v.name := by
    refine String.toList_inj.mp ?_
    rw [← front scope variant, chars, front]
  have variants : variant = v := by
    have found := congrArg Variant.ofName? names
    -- the variants are the same, so the rest of the keys is, and it tells the group
    simpa using found
  subst variants
  have tails := List.append_cancel_left chars
  refine ⟨?_, rfl⟩
  cases scope with
  | account =>
    cases other with
    | account => rfl
    | group id => cases tails
  | group id =>
    cases other with
    | account => cases tails
    | group other =>
      rw [GroupId.hex_inj (String.toList_inj.mp (List.cons.inj tails).2)]

/-- Nor do different objects share a place. -/
theorem cell_inj {scope other : Scope} {variant v : Variant}
    (same : scope.cell variant = other.cell v) : scope = other ∧ variant = v :=
  slotKey_inj (congrArg Cell.key same)

end Scope

/-! ### How long rows are -/

namespace Zstd

/-- A block is three bytes longer than its content at most, those of its header. -/
theorem length_writeBlock_le (last : Bool) (content : Bytes) :
    (writeBlock last content).length ≤ content.length + 3 := by
  have header : (blockHeader last (blockKind content) content.length).length = 3 :=
    Bytes.length_littleEndian _ _
  -- the body is empty, one repeated byte, or the content itself
  have body : (blockBody content).length ≤ content.length := by
    unfold blockBody
    split
    · exact Nat.zero_le _
    · split
      · simp
      · exact Nat.le_refl _
  rw [writeBlock, List.length_append, header]
  omega

/-- So a series of blocks is longer by three bytes for each of them. -/
theorem length_writeBlocks_le (fuel : Nat) (content : Bytes) :
    (writeBlocks fuel content).length ≤ content.length + 3 * (fuel + 1) := by
  -- each step of the recursion writes one block and goes on with what is left
  induction fuel generalizing content with
  | zero => exact length_writeBlock_le true content
  | succ fuel ih =>
    simp only [writeBlocks]
    split
    · have := length_writeBlock_le true content
      omega
    · have first := length_writeBlock_le false (content.take Literals.maxBlock)
      have rest := ih (content.drop Literals.maxBlock)
      rw [List.length_append]
      rw [List.length_take] at first
      rw [List.length_drop] at rest
      omega

/-- Compressing makes a text at most a little longer. -/
theorem length_compress_le (content : Bytes) :
    (compress content).length ≤ 4 * content.length + 12 := by
  have blocks := length_writeBlocks_le (content.length / Literals.maxBlock + 1) content
  have few : content.length / Literals.maxBlock ≤ content.length := Nat.div_le_self _ _
  have front : (magic ++ [0x00, 0x58] : Bytes).length = 6 := rfl
  rw [compress, List.length_append, front]
  omega

end Zstd

/-- A number takes as many bytes as there are groups at most. -/
theorem Codec.length_writeGroups_le (groups n : Nat) : (writeGroups groups n).length ≤ groups := by
  induction groups generalizing n with
  | zero => exact Nat.le_refl 0
  | succ groups ih =>
    unfold writeGroups
    split
    · simp
    · exact Nat.succ_le_succ (ih _)

namespace StoredObject

/-- Stored objects are read back from their rows. -/
theorem faithful_codec : codec.Faithful :=
  Codec.faithful_imap (Codec.faithful_pair Codec.faithful_int Codec.faithful_bytes) fun _ => rfl

/-- What a row has beside the dump are a time and a length, of ten bytes each at most. -/
theorem length_write_le (stored : StoredObject) :
    (codec.write stored).length ≤ stored.dump.length + 20 := by
  have time := Codec.length_writeGroups_le 10 (Codec.foldSign stored.time.toInt)
  have count := Codec.length_writeGroups_le 10 stored.dump.length
  change (Codec.writeGroups 10 (Codec.foldSign stored.time.toInt) ++
    (Codec.writeGroups 10 stored.dump.length ++ stored.dump)).length ≤ _
  rw [List.length_append, List.length_append]
  omega

/-- The row of an object is read back, unless its frame is too long. -/
theorem decode_dump (time : Int64) {o : Object} (short : ¬ maxSize < o.dumpFrame.length) :
    codec.decode (codec.write { time, dump := o.dump }) = .ok { time, dump := o.dump } := by
  -- a frame that is not too long makes a row that can be read
  have row := length_write_le { time, dump := o.dump }
  have packed : o.dump.length ≤ 4 * o.dumpFrame.length + 12 := Zstd.length_compress_le _
  have wide : 4 * maxSize + 32 < UInt64.size := by decide
  refine Codec.decode_write faithful_codec _ ?_
  simp only at row
  omega

end StoredObject

/-! ### Loading what was stored -/

namespace Config.Object

/-- The object remembers as many merged updates as it is set to. -/
structure Remembers (o : Object) (memory : Nat) : Prop where
  bound : o.memory = max memory 1
  few : o.mergedIds.length ≤ max memory 1

/-- No more is kept than was asked for. -/
theorem length_keepLast_le (count : Nat) (ids : List String) :
    (keepLast count ids).length ≤ count := by
  rw [keepLast, List.length_drop]
  omega

/-- Setting the memory of an object cuts what it remembers. -/
theorem remembers_withMemory (o : Object) (memory : Nat) :
    (o.withMemory memory).Remembers memory :=
  ⟨rfl, length_keepLast_le _ _⟩

/-- Loading gives the object that was stored. -/
theorem restored_withMemory {o : Object} {memory : Nat} (remembers : o.Remembers memory)
    (live : o.destroyed = false) :
    (o.restored o.scope).withMemory memory = o.markDumped := by
  obtain ⟨same, few⟩ := remembers
  have all : keepLast (max memory 1) o.mergedIds = o.mergedIds := by
    rw [keepLast, Nat.sub_eq_zero_of_le few, List.drop_zero]
  unfold withMemory restored markDumped
  rw [all, ← same, live]

end Config.Object

namespace Device

/-- **What was stored is what is loaded**, unless its frame is too long. -/
theorem loads_of_row {d : Device} {o : Object} {time : Int64}
    (row : d.store.row? (o.scope.cell o.variant) =
      some (StoredObject.codec.write { time, dump := o.dump }))
    (short : ¬ maxSize < o.dumpFrame.length)
    (remembers : o.Remembers d.session.settings.memory) (live : o.destroyed = false) :
    d.Loads o.scope o.variant o.markDumped := by
  unfold Loads
  -- the row holds the dump, the dump holds the frame, and the frame holds the object
  rw [row]
  refine ⟨_, o.restored o.scope, StoredObject.decode_dump time short, ?_, ?_⟩
  · rw [Object.load_dump, if_neg short]
  · exact (Object.restored_withMemory remembers live).symm

end Device

end ConfigReplica
