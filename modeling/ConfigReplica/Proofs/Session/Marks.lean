import ConfigReplica.Proofs.Retention
import ConfigReplica.Proofs.Session.Actions

/-!
# Removal marks

The mark of a removed group is kept twice, in memory and in a row of the store, and
the two are not always the same: a session that did not need the marks so far has
none in memory, and where storing them failed the row is behind. `Device.Marked` says
of both that they mark the group at a time or later.

No effect takes a mark away, except when the group is rejoined or everything is wiped
(`Device.Effect.marked`). Marks that lapsed are dropped whenever the marks are changed;
a mark that stands is not among them.
-/

namespace ConfigReplica

namespace RemovalMarks

/-- Groups are read back from their tag and their key. -/
theorem faithful_groupCodec : groupCodec.Faithful :=
  Codec.faithful_imap (Codec.faithful_pair Codec.faithful_byte (Codec.faithful_exactly 32))
    fun _ => rfl

/-- A group takes at least the byte of its tag. -/
theorem solid_groupCodec : groupCodec.Solid := by
  intro group
  change 0 < (group.identity.tag :: group.identity.key.toList).length
  exact Nat.succ_pos _

/-- Marks are read back from their row. -/
theorem faithful_codec : codec.Faithful :=
  Codec.faithful_map faithful_groupCodec Codec.faithful_int solid_groupCodec

/-- A group is marked at a time or later. -/
def Since (marks : RemovalMarks) (group : GroupId) (time : Int64) : Prop :=
  ∃ t : Int64, marks[group]? = some t ∧ time ≤ t

variable {marks : RemovalMarks} {group other : GroupId} {time since : Int64}

/-- Dropping the marks that lapsed keeps one that stands. -/
theorem Since.filter (marked : marks.Since group time) (stands : since ≤ time) :
    Since (marks.filter fun _ t => since ≤ t) group time := by
  obtain ⟨t, mark, le⟩ := marked
  refine ⟨t, ?_, le⟩
  rw [Std.ExtTreeMap.getElem?_filter, mark]
  simpa [Option.filter] using Int64.le_trans stands le

/-- A mark that is set is not before the one it takes the place of. -/
theorem Since.insert (marked : marks.Since group time) (later : other = group → time ≤ since) :
    Since (Std.ExtTreeMap.insert marks other since) group time := by
  obtain ⟨t, mark, le⟩ := marked
  by_cases same : other = group
  · exact ⟨since, by simp [same], later same⟩
  · exact ⟨t, by simp [Std.ExtTreeMap.getElem?_insert, same, mark], le⟩

/-- Taking the mark of another group away. -/
theorem Since.erase (marked : marks.Since group time) (differs : other ≠ group) :
    Since (Std.ExtTreeMap.erase marks other) group time := by
  obtain ⟨t, mark, le⟩ := marked
  exact ⟨t, by simp [Std.ExtTreeMap.getElem?_erase, differs, mark], le⟩

end RemovalMarks

namespace Device

open RemovalMarks

variable {deed : Deed} {d d' : Device} {group : GroupId} {time : Int64}

/-- **The mark of a group holds**, in memory and in the store. Where the marks were not
read yet, their row can be read. -/
structure Marked (d : Device) (group : GroupId) (time : Int64) : Prop where
  known : ∀ marks, d.session.removed = some marks → marks.Since group time
  stored : ∃ marks, d.store.row? cell = some (codec.write marks) ∧ marks.Since group time ∧
    (d.session.removed = none → (codec.write marks).length < UInt64.size)

/-- A deed does not take the mark of a group back, nor set it to an earlier time. -/
def LeavesMark (group : GroupId) (time now : Int64) (deed : Deed) : Prop :=
  deed ≠ .rejoin group ∧ deed ≠ .wipe ∧ (deed = .remove group → time ≤ now)

/-- A change of the marks that leaves the mark of a group. -/
theorem LeavesMark.since (leaves : LeavesMark group time d.clock deed)
    {f : RemovalMarks → RemovalMarks} (change : deed.Remarks d.clock f) {marks : RemovalMarks}
    (marked : marks.Since group time) : (f marks).Since group time := by
  -- a removal of the group sets its mark anew, at the present time
  obtain ⟨rejoins, -, removes⟩ := leaves
  cases change with
  | remove other =>
    refine marked.insert fun same => removes ?_
    rw [same]
  | rejoin other =>
    refine marked.erase ?_
    rintro rfl
    exact rejoins rfl

/-- Marks that were read are those of the row. -/
theorem Marked.of_stored (marked : d.Marked group time) (unread : d.session.removed = none)
    {marks : RemovalMarks} (stored : d.MarksStored marks) : marks.Since group time := by
  obtain ⟨saved, row, since, short⟩ := marked.stored
  unfold MarksStored at stored
  rw [row] at stored
  have read : codec.decode (codec.write saved) = .ok saved :=
    Codec.decode_write faithful_codec saved (short unread)
  have same : saved = marks := Except.ok.inj (read.symm.trans stored)
  rwa [← same]

/-- **A mark that stands stays**, whatever else happens. -/
theorem Effect.marked (effect : Effect deed d d') (stands : d.cutoff ≤ time)
    (leaves : LeavesMark group time d.clock deed) (marked : d.Marked group time) :
    d'.Marked group time := by
  cases effect with
  | aside same =>
    obtain ⟨known, stored⟩ := marked
    unfold Store.row? at stored
    refine ⟨?_, ?_⟩
    · rwa [same.removed]
    · unfold Store.row?
      rwa [same.rows, same.removed]
  | recalled unread stored =>
    -- what is read is what was written, and from now on the row need not be read again
    refine ⟨?_, ?_⟩
    · rintro _ ⟨rfl⟩
      exact marked.of_stored unread stored
    · obtain ⟨saved, row, since, -⟩ := marked.stored
      exact ⟨saved, row, since, fun none => by cases none⟩
  -- the row is not touched: it catches up when the marks are saved
  | remarked change known =>
    refine ⟨?_, ?_⟩
    · rintro _ ⟨rfl⟩
      exact (leaves.since change (marked.known _ known)).filter stands
    · obtain ⟨saved, row, since, -⟩ := marked.stored
      exact ⟨saved, row, since, fun none => by cases none⟩
  | markSaved change known =>
    -- the row catches up with the memory
    refine ⟨marked.known, _, ?_, marked.known _ known, ?_⟩
    · rw [row?_setRow]
      exact if_pos rfl
    · intro unread
      exact absurd (unread.symm.trans known) (by simp)
  -- rows of other tables, or of objects that are not stored any more
  | watermarkSaved variant bytes =>
    obtain ⟨saved, row, since, short⟩ := marked.stored
    refine ⟨marked.known, saved, ?_, since, short⟩
    rw [row?_setRow, if_neg (by simp [cell])]
    exact row
  | stored stores object placed at' live present =>
    obtain ⟨saved, row, since, short⟩ := marked.stored
    refine ⟨marked.known, saved, ?_, since, short⟩
    change ((d.setRow _ _).store.row? cell) = _
    rw [row?_setRow, if_neg (by simp [cell, Scope.cell])]
    exact row
  | rowDeleted variant mine vacant =>
    obtain ⟨saved, row, since, short⟩ := marked.stored
    refine ⟨marked.known, saved, ?_, since, short⟩
    rw [row?_eraseRow, if_neg (by simp [cell, Scope.cell])]
    exact row
  -- wiping alone forgets the marks
  | cleared objects => exact absurd rfl leaves.2.1
  | otherDeleted other => exact absurd rfl leaves.2.1
  | forgot => exact absurd rfl leaves.2.1
  | touched handles scope isOpen => exact ⟨marked.known, marked.stored⟩
  | adopted handles isOpen admitted free loads => exact ⟨marked.known, marked.stored⟩
  | changed handles change => exact ⟨marked.known, marked.stored⟩
  | evicted other => exact ⟨marked.known, marked.stored⟩
  | destroyed loose => exact ⟨marked.known, marked.stored⟩
  | closed mine => exact ⟨marked.known, marked.stored⟩

/-- No object of a group whose mark stands is found present. -/
theorem Marked.not_present (marked : d.Marked group time) (stands : d.cutoff ≤ time) :
    ¬ d.Present (.group group) := by
  intro present
  obtain ⟨marks, known, none⟩ := present group rfl
  obtain ⟨t, mark, le⟩ := marked.known marks known
  exact none t mark (Int64.le_trans stands le)

/-- A change that marks a group at the present time leaves it marked. -/
theorem marked_of_remarked
    (changed : SessionM.Remarked (fun marks => marks.insert group d.clock) d) :
    d.Marked group d.clock := by
  obtain ⟨before, known, row⟩ := changed
  -- the mark is of the present time, and so does not lapse
  have since : Since ((before.insert group d.clock).filter fun _ time => d.cutoff ≤ time) group
      d.clock := by
    refine Since.filter ⟨d.clock, ?_, Int64.le_refl _⟩ (cutoff_le _ _)
    simp
  refine ⟨?_, _, row, since, ?_⟩
  · intro marks read
    rw [known] at read
    rwa [← Option.some.inj read]
  · intro unread
    exact absurd (unread.symm.trans known) (by simp)

end Device

end ConfigReplica
