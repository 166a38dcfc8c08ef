import ConfigReplica.Config.Object
import ConfigReplica.Zstd.RoundTrip

/-!
# Frames that are read back

A frame is read back exactly when it is no longer than `maxSize` before it is
compressed. Writing checks no length, so an object can hand out a push or a dump
that nobody reads; what is read is always the frame that was written
(`PushFrame.unpack_pack`, `DumpFrame.unpack_pack`).
-/

namespace ConfigReplica.Config

/-- Frames that are short enough to be read fit into lengths of 64 bits. -/
theorem decode_of_short {α : Type} {c : Codec α} (h : c.Faithful) {x : α}
    (short : ¬ maxSize < (c.write x).length) : c.decode (c.write x) = .ok x := by
  have wide : maxSize < UInt64.size := by decide
  exact Codec.decode_write h x (by omega)

namespace PushFrame

/-- The length of the frame before it is compressed. -/
def length (f : PushFrame) : Nat :=
  (codec.write f).length

theorem unpack_pack (f : PushFrame) :
    unpack f.pack =
      if maxSize < f.length then .error (.compression (.oversize maxSize)) else .ok f := by
  unfold unpack pack length
  rw [Zstd.decompress_compress]
  by_cases long : maxSize < (codec.write f).length
  · rw [if_pos long, if_pos long]
  · rw [if_neg long, if_neg long]
    change (codec.decode (codec.write f)).mapError CorruptReason.frame = .ok f
    rw [decode_of_short faithful_codec long]
    rfl

/-- Only the frame that was packed is ever read. -/
theorem eq_of_unpack_pack {f g : PushFrame} (h : unpack f.pack = .ok g) : f = g := by
  rw [unpack_pack] at h
  split at h
  · exact absurd h (by simp)
  · exact Except.ok.inj h

end PushFrame

namespace DumpFrame

/-- The length of the frame before it is compressed. -/
def length (f : DumpFrame) : Nat :=
  (codec.write f).length

theorem unpack_pack (f : DumpFrame) :
    unpack f.pack =
      if maxSize < f.length then .error (.compression (.oversize maxSize)) else .ok f := by
  unfold unpack pack length
  rw [Zstd.decompress_compress]
  by_cases long : maxSize < (codec.write f).length
  · rw [if_pos long, if_pos long]
  · rw [if_neg long, if_neg long]
    change (codec.decode (codec.write f)).mapError DataFault.frame = .ok f
    rw [decode_of_short faithful_codec long]
    rfl

end DumpFrame

namespace Object

/-- What an object is after it was stored and loaded again. -/
def restored (o : Object) (scope : Scope) : Object :=
  { variant := o.variant, scope, state := o.state, origin := o.origin, seqno := o.seqno
    dirty := o.dirty, currentHashes := o.currentHashes, mergedIds := o.mergedIds }

/-- **Loading a dump** gives the object back, without its passing marks, unless the
dump is too long. -/
theorem load_dump (o : Object) (scope : Scope) :
    load o.variant scope o.dump =
      if maxSize < o.dumpFrame.length then .error (.data (.compression (.oversize maxSize)))
      else .ok (o.restored scope) := by
  unfold load dump
  rw [DumpFrame.unpack_pack]
  by_cases long : maxSize < o.dumpFrame.length
  · rw [if_pos long, if_pos long]
  · rw [if_neg long, if_neg long]
    simp [dumpFrame, restored]

/-- **Reading a push** of an object of the same variant gives its state, unless the
push is too long or its state breaks the schema. -/
theorem readUpdate_push (o p : Object) (same : p.variant = o.variant) :
    p.readUpdate o.push.data =
      if maxSize < o.pushFrame.length then .error (.compression (.oversize maxSize))
      else
        match o.state.check o.variant with
        | .error fault => .error (.schema fault)
        | .ok () => .ok o.state := by
  unfold readUpdate push
  simp only [PushFrame.unpack_pack]
  by_cases long : maxSize < o.pushFrame.length
  · rw [if_pos long, if_pos long]
  · rw [if_neg long, if_neg long]
    cases checked : o.state.check o.variant <;> simp [pushFrame, same, checked]

/-- What is read from a packed frame is its state. -/
theorem state_of_readUpdate_pack {o : Object} {f : PushFrame} {s : State}
    (h : o.readUpdate f.pack = .ok s) : s = f.state := by
  unfold readUpdate at h
  split at h
  · exact absurd h (by simp)
  · next g unpacked =>
    obtain rfl := PushFrame.eq_of_unpack_pack unpacked
    split at h
    · exact absurd h (by simp)
    · split at h
      · exact absurd h (by simp)
      · split at h
        · exact absurd h (by simp)
        · exact (Except.ok.inj h).symm

/-- An update that is read carries a state that keeps to the schema. -/
theorem check_of_readUpdate {o : Object} {data : Bytes} {s : State}
    (h : o.readUpdate data = .ok s) : s.check o.variant = .ok () := by
  unfold readUpdate at h
  split at h
  · exact absurd h (by simp)
  · split at h
    · exact absurd h (by simp)
    · split at h
      · exact absurd h (by simp)
      · split at h
        · exact absurd h (by simp)
        · next checked => rwa [Except.ok.inj h] at checked

end Object

end ConfigReplica.Config
