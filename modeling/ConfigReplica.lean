import ConfigReplica.Words
import ConfigReplica.Zstd.Frame
import ConfigReplica.Zstd.RoundTrip
import ConfigReplica.Text.CaseTable
import ConfigReplica.Text.EscapeTable
import ConfigReplica.Text.Blank
import ConfigReplica.Text.Lowercase
import ConfigReplica.Text.Quoted
import ConfigReplica.Hex
import ConfigReplica.Decimal.Digits
import ConfigReplica.Decimal.Shortest
import ConfigReplica.Json.Fault
import ConfigReplica.Json.Scan
import ConfigReplica.Json.Check
import ConfigReplica.Json.Shape
import ConfigReplica.Digest.TreeHash
import ConfigReplica.Digest.Sha256
import ConfigReplica.Seal.KeyStream
import ConfigReplica.Seal.OneTimeSum
import ConfigReplica.Seal.Basic
import ConfigReplica.Codec.Basic
import ConfigReplica.Codec.Dict
import ConfigReplica.Identity
import ConfigReplica.Variant
import ConfigReplica.Scope
import ConfigReplica.Routing.Node
import ConfigReplica.Error
import ConfigReplica.Entropy
import ConfigReplica.Config.Entry
import ConfigReplica.Config.State
import ConfigReplica.Config.Schema
import ConfigReplica.Config.Record
import ConfigReplica.Config.Contact
import ConfigReplica.Config.Conversation
import ConfigReplica.Config.Membership
import ConfigReplica.Config.GroupRecords
import ConfigReplica.Config.Edit
import ConfigReplica.Config.Frame
import ConfigReplica.Config.Object
import ConfigReplica.Config.Profile
import ConfigReplica.Config.Group
import ConfigReplica.Config.ReadMark
import ConfigReplica.Seal.Envelope
import ConfigReplica.Fresh
import ConfigReplica.Store
import ConfigReplica.Retention
import ConfigReplica.Ledger
import ConfigReplica.Routing.Pool
import ConfigReplica.Routing.Path
import ConfigReplica.Routing.Failures
import ConfigReplica.Routing.Router
import ConfigReplica.Session.Schedule
import ConfigReplica.Session.Basic
import ConfigReplica.Session.Removal
import ConfigReplica.Session.Watermark
import ConfigReplica.Session.Object
import ConfigReplica.Session.Merge
import ConfigReplica.Session.Push
import ConfigReplica.Session.Lifecycle
import ConfigReplica.Session.Lookup
import ConfigReplica.Session.Flush
import ConfigReplica.Calendar
import ConfigReplica.Text.Utf8Fault
import ConfigReplica.Account
import ConfigReplica.Cli.Arguments
import ConfigReplica.Cli.Console
import ConfigReplica.Cli.Usage
import ConfigReplica.StoreFile
import ConfigReplica.Main
import ConfigReplica.Proofs.State.Join
import ConfigReplica.Proofs.Edit.Plan
import ConfigReplica.Proofs.Object.Frames
import ConfigReplica.Proofs.Object.History
import ConfigReplica.Proofs.Object.Convergence
import ConfigReplica.Proofs.Object.Acceptance
import ConfigReplica.Proofs.Object.Acknowledgement
import ConfigReplica.Proofs.Text.Trimming
import ConfigReplica.Proofs.Hexadecimal
import ConfigReplica.Proofs.IdentityText
import ConfigReplica.Proofs.Json.Lexical
import ConfigReplica.Proofs.Json.RoundTrip
import ConfigReplica.Proofs.State.Records
import ConfigReplica.Proofs.Group.Generations
import ConfigReplica.Proofs.Group.Rotation
import ConfigReplica.Proofs.Group.Climbing
import ConfigReplica.Proofs.Store.Steps
import ConfigReplica.Proofs.Session.Within
import ConfigReplica.Proofs.Session.Effects
import ConfigReplica.Proofs.Session.Actions
import ConfigReplica.Proofs.Session.Marks
import ConfigReplica.Proofs.Session.Operations
import ConfigReplica.Proofs.Session.Scheduling
import ConfigReplica.Proofs.Session.Rounds
import ConfigReplica.Proofs.Session.Rows
import ConfigReplica.Proofs.Session.Runs
import ConfigReplica.Proofs.Session.Watermarks
import ConfigReplica.Proofs.Session.Durability
import ConfigReplica.Proofs.Session.Removal
import ConfigReplica.Proofs.Session.Incarnation
import ConfigReplica.Proofs.Session.Wipe
import ConfigReplica.Proofs.Retention
import ConfigReplica.Proofs.Ledger.Delivery
import ConfigReplica.Proofs.Ledger.FreshMessages
import ConfigReplica.Proofs.Session.Instances
import ConfigReplica.Proofs.Session.Announcements
import ConfigReplica.Proofs.Routing.NodeText
import ConfigReplica.Proofs.Routing.HopRows
import ConfigReplica.Proofs.Routing.Builds
import ConfigReplica.Proofs.Routing.NodeSets
import ConfigReplica.Proofs.Routing.Choice
import ConfigReplica.Proofs.Routing.StoredNodes
import ConfigReplica.Proofs.Routing.NodeGrammar
import ConfigReplica.Proofs.Routing.FailureCounts
import ConfigReplica.Proofs.Routing.Settling
import ConfigReplica.Proofs.Routing.Sending
import ConfigReplica.Proofs.Routing.FailureHistory
import ConfigReplica.Proofs.Json.Nesting
import ConfigReplica.Proofs.Object.Encoding
import ConfigReplica.Proofs.Object.Schema
import ConfigReplica.Proofs.Object.Typed
import ConfigReplica.Proofs.Session.RemovalHistory
import ConfigReplica.Proofs.Session.UnsavedTurns
import ConfigReplica.Proofs.Session.Closing
import ConfigReplica.Proofs.Session.Pushes
import ConfigReplica.Proofs.Session.Sync
import ConfigReplica.Proofs.Session.Waiting
import ConfigReplica.Proofs.Session.Confirming
import ConfigReplica.Proofs.Session.Sending
import ConfigReplica.Proofs.Session.Flushes
import ConfigReplica.Proofs.Edit.Writes
import ConfigReplica.Proofs.Object.Records
import ConfigReplica.Proofs.Session.Isolation
import ConfigReplica.Proofs.Session.Edits
import ConfigReplica.Proofs.Ledger.Newest
import ConfigReplica.Proofs.Object.ReadMarks
import ConfigReplica.Proofs.Object.Communities
import ConfigReplica.Proofs.Account.Opening
import ConfigReplica.Proofs.Cli.Commands
import ConfigReplica.Proofs.Cli.Launches
import ConfigReplica.Proofs.Store.Keys
