import ConfigReplica.Cli.Console
import ConfigReplica.Cli.Usage
import ConfigReplica.StoreFile
import Std.Time.DateTime.Timestamp

/-!
# The program

Reads the command line, the store and what else a command works with, runs the command, writes the
store back and shows the output. The store is a file in the data directory.
-/

namespace ConfigReplica.Cli

/-- Where the data is kept if nothing else is said. -/
def defaultDir : IO String := do
  let home ← IO.getEnv "HOME"
  pure (home.getD "." ++ "/.swarmsync/data")

/-- Reads a store file; there is none at first. -/
def readStore (path : String) : IO Store := do
  let data ←
    try some <$> IO.FS.readBinFile path
    catch
      | .noFileOrDirectory .. => pure none
      | error => throw error
  match data with
  | none => pure {}
  | some data =>
    match StoreFile.codec.decode data.toList with
    | .ok rows => pure { rows }
    | .error fault => throw (.userError fault.message)

/-- Writes a store file. -/
def writeStore (path : String) (store : Store) : IO Unit :=
  IO.FS.writeBinFile path ⟨(StoreFile.codec.write store.rows).toArray⟩

/-- Why a file could not be read. -/
def causeOf : IO.Error → String
  | .noFileOrDirectory _ code _ => s!"No such file or directory (os error {code})"
  | error => toString error

/-- The text of the file that a command reads, or why it cannot be read. -/
def readInput : Command → IO (Except String String)
  | .importPool file => do
    try .ok <$> IO.FS.readFile file
    catch error => pure (.error (causeOf error))
  | _ => pure (.error "")

/-- Random values for one run, which needs no more than these. -/
def surroundings (command : Command) : IO Surroundings := do
  let time ← Std.Time.Timestamp.now
  let input ← readInput command
  let random ← IO.getRandomBytes 16384
  let byte (i : Nat) : UInt8 := random.data[i % 16384]?.getD 0
  let word (k : Nat) : Nat := Bytes.ofLittleEndian ((List.range 8).map fun i => byte (8 * k + i))
  pure {
    clock := clampTime time.toMillisecondsSinceUnixEpoch.val
    entropy := {
      wordAt := fun k => UInt64.ofNat (word k)
      byteAt := fun k i => byte (4096 + 64 * k + i) }
    shuffle := Routing.Shuffle.byDraws fun turn => word (1024 + turn)
    file := fun _ => input }

/-- Runs a command line on the store of its data directory. -/
def runInvocation (invocation : Invocation) : IO UInt32 := do
  let dataDir ← match invocation.dataDir with
    | some dataDir => pure dataDir
    | none => defaultDir
  IO.FS.createDirAll dataDir
  let path := dataDir ++ "/swarmsync.rows"
  let around ← surroundings invocation.command
  let outcome := execute around dataDir invocation.command (← readStore path)
  writeStore path outcome.store
  IO.print outcome.out
  IO.eprint outcome.err
  pure (UInt32.ofNat outcome.code)

/-- Runs the program. -/
def runArguments (args : List String) : IO UInt32 := do
  match Invocation.read args with
  | .ok invocation => runInvocation invocation
  | .error stop =>
    IO.print stop.text
    IO.eprint stop.complaint
    pure (UInt32.ofNat stop.code)

end ConfigReplica.Cli

/-- The program. -/
def main (args : List String) : IO UInt32 :=
  ConfigReplica.Cli.runArguments args
