import ConfigReplica.Config.State
import ConfigReplica.Error

/-!
# Frames

An object leaves memory in two forms. A push frame carries its state to other replicas; a dump frame
also carries its bookkeeping, and is kept for the next session. Both are compressed. Reading refuses
what is longer than `maxSize` once it is expanded.
-/

namespace ConfigReplica.Config

/-- Variants in frames. -/
def variantCodec : Codec Variant :=
  Codec.tag Variant.tagged

theorem faithful_variantCodec : variantCodec.Faithful :=
  Codec.faithful_tag Variant.mem_tagged (by decide)

/-- The longest frame that is read, in bytes. -/
def maxSize : Nat := 8 * 1024 * 1024

/-- What other replicas are told of an object. -/
structure PushFrame where
  version : UInt8
  variant : Variant
  seqno : UInt64
  state : State
  deriving DecidableEq

/-- What is kept of an object. -/
structure DumpFrame where
  version : UInt8
  variant : Variant
  origin : UInt64
  seqno : UInt64
  dirty : Bool
  currentHashes : List String
  mergedIds : List String
  state : State
  deriving DecidableEq

namespace PushFrame

/-- The version that is written, and the only one that is read. -/
def currentVersion : UInt8 := 1

/-- Push frames as bytes. -/
def codec : Codec PushFrame :=
  Codec.imap
    (Codec.pair Codec.byte (Codec.pair variantCodec (Codec.pair Codec.word State.codec)))
    (fun (version, variant, seqno, state) => { version, variant, seqno, state })
    (fun f => (f.version, f.variant, f.seqno, f.state))

theorem faithful_codec : codec.Faithful :=
  Codec.faithful_imap
    (Codec.faithful_pair Codec.faithful_byte (Codec.faithful_pair faithful_variantCodec
      (Codec.faithful_pair Codec.faithful_word State.faithful_codec)))
    (fun _ => rfl)

/-- The compressed frame. -/
def pack (f : PushFrame) : Bytes :=
  Zstd.compress (codec.write f)

/-- Reads a compressed frame of an update that arrived. -/
def unpack (data : Bytes) : Except CorruptReason PushFrame :=
  match Zstd.decompress maxSize data with
  | .error fault => .error (.compression fault)
  | .ok raw => (codec.decode raw).mapError .frame

end PushFrame

namespace DumpFrame

/-- The version that is written, and the only one that is read. -/
def currentVersion : UInt8 := 1

/-- Dump frames as bytes. -/
def codec : Codec DumpFrame :=
  Codec.imap
    (Codec.pair Codec.byte (Codec.pair variantCodec (Codec.pair Codec.word (Codec.pair Codec.word
      (Codec.pair Codec.flag (Codec.pair (Codec.list Codec.text)
        (Codec.pair (Codec.list Codec.text) State.codec)))))))
    (fun (version, variant, origin, seqno, dirty, currentHashes, mergedIds, state) =>
      { version, variant, origin, seqno, dirty, currentHashes, mergedIds, state })
    (fun f => (f.version, f.variant, f.origin, f.seqno, f.dirty, f.currentHashes, f.mergedIds, f.state))

theorem faithful_codec : codec.Faithful :=
  have texts := Codec.faithful_list Codec.faithful_text Codec.solid_text
  Codec.faithful_imap
    (Codec.faithful_pair Codec.faithful_byte (Codec.faithful_pair faithful_variantCodec
      (Codec.faithful_pair Codec.faithful_word (Codec.faithful_pair Codec.faithful_word
        (Codec.faithful_pair Codec.faithful_flag (Codec.faithful_pair texts
          (Codec.faithful_pair texts State.faithful_codec)))))))
    (fun _ => rfl)

/-- The compressed frame. -/
def pack (f : DumpFrame) : Bytes :=
  Zstd.compress (codec.write f)

/-- Reads a compressed frame that was kept. -/
def unpack (data : Bytes) : Except DataFault DumpFrame :=
  match Zstd.decompress maxSize data with
  | .error fault => .error (.compression fault)
  | .ok raw => (codec.decode raw).mapError .frame

end DumpFrame

end ConfigReplica.Config
