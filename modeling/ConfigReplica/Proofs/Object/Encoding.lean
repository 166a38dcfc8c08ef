import ConfigReplica.Proofs.Object.History

/-!
# Nothing is lost in writing

Objects leave memory as bytes: as push frames for other replicas, as dump frames for
the next session, and as bare states when they are hashed. Whatever is in a state,
these bytes determine it. Encodings delimit themselves, so a reader needs to be told
neither their length nor what comes after (`Codec.Faithful.append_inj`).

Frames are compressed on their way out. What is said of reading them holds for the
output of every compressor that the decompressor undoes, not only for the one here.

Lengths are written in 64 bits, so encodings are taken to be shorter than
`UInt64.size` bytes. Nothing longer fits into the memory of a machine.
-/

namespace ConfigReplica

/-- Two encodings that begin alike are encodings of one value, and what follows them
is the same. -/
theorem Codec.Faithful.append_inj {α : Type} {c : Codec α} (h : c.Faithful) {x y : α}
    {rest rest' : Bytes} (hx : (c.write x).length < UInt64.size)
    (hy : (c.write y).length < UInt64.size) (same : c.write x ++ rest = c.write y ++ rest') :
    x = y ∧ rest = rest' := by
  have first := h x rest hx
  rw [same, h y rest' hy] at first
  obtain ⟨values, rests⟩ := Prod.mk.inj (Except.ok.inj first)
  exact ⟨values.symm, rests.symm⟩

namespace Config

/-- Equal encodings are encodings of equal states. -/
theorem State.eq_of_bytes_eq {s t : State} (short : s.bytes.length < UInt64.size)
    (same : s.bytes = t.bytes) : s = t := by
  have short' : t.bytes.length < UInt64.size := same ▸ short
  have padded : codec.write s ++ [] = codec.write t ++ [] := by
    rw [List.append_nil, List.append_nil]
    exact same
  exact (State.faithful_codec.append_inj short short' padded).1

/-- A push frame is read from everything that expands to its encoding. -/
theorem PushFrame.unpack_of_expands {f : PushFrame} {data : Bytes}
    (short : f.length < UInt64.size) (expands : Zstd.decompress maxSize data = .ok (codec.write f)) :
    unpack data = .ok f := by
  unfold unpack
  rw [expands]
  change (codec.decode (codec.write f)).mapError CorruptReason.frame = .ok f
  rw [Codec.decode_write faithful_codec f short]
  rfl

/-- A dump frame is read from everything that expands to its encoding. -/
theorem DumpFrame.unpack_of_expands {f : DumpFrame} {data : Bytes}
    (short : f.length < UInt64.size) (expands : Zstd.decompress maxSize data = .ok (codec.write f)) :
    unpack data = .ok f := by
  unfold unpack
  rw [expands]
  change (codec.decode (codec.write f)).mapError DataFault.frame = .ok f
  rw [Codec.decode_write faithful_codec f short]
  rfl

/-- What is compressed here is one of the things that expand to an encoding. -/
theorem expands_compress {raw : Bytes} (short : raw.length ≤ maxSize) :
    Zstd.decompress maxSize (Zstd.compress raw) = .ok raw := by
  rw [Zstd.decompress_compress]
  exact if_neg (not_lt.mpr short)

namespace Object

/-- Loading gives the object back from everything that expands to its dump frame. -/
theorem load_of_expands {o : Object} {scope : Scope} {data : Bytes}
    (short : o.dumpFrame.length < UInt64.size)
    (expands : Zstd.decompress maxSize data = .ok (DumpFrame.codec.write o.dumpFrame)) :
    load o.variant scope data = .ok (o.restored scope) := by
  unfold load
  rw [DumpFrame.unpack_of_expands short expands]
  simp [dumpFrame, restored]

/-- **Nothing is lost in writing.** A push frame and a dump frame are read back from
their encodings, whatever stands behind these, and from all that expands to them. An
object whose dump is short enough is loaded from it as it was. Two states that are
encoded alike are the same. -/
theorem read_back :
    (∀ f : PushFrame, f.length < UInt64.size →
      (∀ rest, PushFrame.codec.read (PushFrame.codec.write f ++ rest) = .ok (f, rest)) ∧
      ∀ data, Zstd.decompress maxSize data = .ok (PushFrame.codec.write f) →
        PushFrame.unpack data = .ok f) ∧
    (∀ f : DumpFrame, f.length < UInt64.size →
      (∀ rest, DumpFrame.codec.read (DumpFrame.codec.write f ++ rest) = .ok (f, rest)) ∧
      ∀ data, Zstd.decompress maxSize data = .ok (DumpFrame.codec.write f) →
        DumpFrame.unpack data = .ok f) ∧
    (∀ (o : Object) (scope : Scope) (data : Bytes), o.dumpFrame.length ≤ maxSize →
      data = o.dump ∨ Zstd.decompress maxSize data = .ok (DumpFrame.codec.write o.dumpFrame) →
      ∃ q, load o.variant scope data = .ok q ∧ q.state = o.state ∧ q.origin = o.origin ∧
        q.seqno = o.seqno ∧ q.dirty = o.dirty ∧ q.currentHashes = o.currentHashes ∧
        q.mergedIds = o.mergedIds) ∧
    ∀ s t : State, s.bytes.length < UInt64.size → s.bytes = t.bytes → s = t := by
  -- frames are faithful with any rest, and dumps and states are frames without one
  refine ⟨fun f short => ⟨?_, ?_⟩, fun f short => ⟨?_, ?_⟩, ?_, ?_⟩
  · intro rest
    exact PushFrame.faithful_codec f rest short
  · intro data expands
    exact PushFrame.unpack_of_expands short expands
  · intro rest
    exact DumpFrame.faithful_codec f rest short
  · intro data expands
    exact DumpFrame.unpack_of_expands short expands
  · intro o scope data short packed
    have wide : maxSize < UInt64.size := by decide
    have expands : Zstd.decompress maxSize data = .ok (DumpFrame.codec.write o.dumpFrame) := by
      rcases packed with rfl | expands
      · exact expands_compress short
      · exact expands
    have loaded : load o.variant scope data = .ok (o.restored scope) :=
      load_of_expands (by omega) expands
    exact ⟨o.restored scope, loaded, rfl, rfl, rfl, rfl, rfl, rfl⟩
  · intro s t short same
    exact State.eq_of_bytes_eq short same

/-- A removal before the epoch, by the greatest origin, is read back from a push and
loaded from a dump together with the bookkeeping, and nothing else is encoded alike. -/
theorem read_back_removal :
    ∃ o : Object, o.variant = .contacts ∧
      o.state.find? "contacts" "x" = some ⟨-5, 18446744073709551615, none⟩ ∧
      PushFrame.unpack o.push.data = .ok o.pushFrame ∧
      DumpFrame.unpack o.dump = .ok o.dumpFrame ∧
      (∃ q, load .contacts .account o.dump = .ok q ∧ q.state = o.state ∧ q.dirty = true ∧
        q.currentHashes = ["h", "g"] ∧ q.mergedIds = ["m"]) ∧
      ∀ t : State, o.state.bytes = t.bytes → o.state = t := by
  let gone : Entry := ⟨-5, 18446744073709551615, none⟩
  let o : Object :=
    { blank .contacts .account 1 with
      state := State.empty.write "contacts" "x" gone, dirty := true
      currentHashes := ["h", "g"], mergedIds := ["m"] }
  -- all three encodings are short, so their lengths fit
  have shortPush : o.pushFrame.length ≤ maxSize := by decide
  have shortDump : o.dumpFrame.length ≤ maxSize := by decide
  have shortState : o.state.bytes.length < UInt64.size := by decide
  have wide : maxSize < UInt64.size := by decide
  obtain ⟨pushes, dumps, loads, states⟩ := read_back
  have pushed := (pushes o.pushFrame (by omega)).2 _ (expands_compress shortPush)
  have dumped := (dumps o.dumpFrame (by omega)).2 _ (expands_compress shortDump)
  obtain ⟨q, loaded, state, -, -, dirty, hashes, ids⟩ := loads o .account o.dump shortDump (.inl rfl)
  refine ⟨o, rfl, ?_, pushed, dumped, ⟨q, loaded, state, dirty, hashes, ids⟩, ?_⟩
  · rw [State.find?_write]
    rfl
  · intro t same
    exact states o.state t shortState same

end Object

end Config

end ConfigReplica
