import ConfigReplica.Store

/-!
# Store files

The rows of a store as one byte string, for keeping them in a file.
-/

namespace ConfigReplica.StoreFile

/-- Places of rows. -/
def cellCodec : Codec Cell :=
  Codec.imap (Codec.pair (Codec.tag Table.all) Codec.text) (fun (table, key) => { table, key })
    (fun cell => (cell.table, cell.key))

/-- All rows of a store. -/
def codec : Codec (Std.ExtTreeMap Cell Bytes) :=
  Codec.map cellCodec Codec.bytes

end ConfigReplica.StoreFile
