import ConfigReplica.Account
import ConfigReplica.Calendar
import ConfigReplica.Cli.Arguments
import ConfigReplica.Config.Contact
import ConfigReplica.Config.Profile
import ConfigReplica.Routing.Path
import ConfigReplica.Session.Object

/-!
# Commands

What the commands do, as a function of the store, the clock, random values and the files that can be
read. Output is collected line by line; lines that were written before a command failed stay written.
-/

namespace ConfigReplica.Cli

open Config

/-- Why a command fails. -/
inductive Fault where
  | failed (error : Error)
  | account (fault : Account.Fault)
  /-- The identity of a contact cannot be read. -/
  | badContact (text : String) (error : Error)
  /-- The identity of a contact is that of a group. -/
  | groupContact (text : String)
  /-- A file cannot be read. -/
  | unreadable (file cause : String)
  /-- A line of a file is no node. -/
  | badNode (line : String) (error : Error)
  deriving DecidableEq, Repr

namespace Fault

/-- The complaint about a text that is no identity. -/
def badId (text : String) (error : Error) : String :=
  "Invalid session ID '" ++ text ++ "': " ++ error.message

/-- The wording of a fault. -/
def message : Fault → String
  | failed error => error.message
  | account (.store error) => error.message
  | account (.idEncoding _) => "Stored account id is not UTF-8"
  | account .secretSize => "Stored session secret has the wrong length"
  | account (.badId text error) => badId text error
  | badContact text error => badId text error
  | groupContact text => text ++ " is a group id, not a contact"
  | unreadable file _ => "Failed to read " ++ file
  | badNode line error => "Invalid node '" ++ line ++ "': " ++ error.message

/-- The cause behind a fault, where there is one. -/
def cause? : Fault → Option String
  | unreadable _ cause => some cause
  | account (.idEncoding fault) => some fault.message
  | _ => none

/-- What is shown of a fault. -/
def report (fault : Fault) : String :=
  "Error: " ++ fault.message ++
    (match fault.cause? with
    | some cause => "\n\nCaused by:\n    " ++ cause
    | none => "") ++ "\n"

end Fault

/-- A session at work, and the text that was written. -/
structure Console where
  device : Device
  out : String := ""

/-- An action of a command. -/
abbrev ConsoleM := EStateM Fault Console

/-- What a command works with, apart from the store. -/
structure Surroundings where
  clock : Int64
  entropy : Entropy
  shuffle : Routing.Shuffle
  /-- The text of a file, or why it cannot be read. -/
  file : String → Except String String

namespace ConsoleM

variable {α : Type}

/-- Writes a line. -/
def say (line : String) : ConsoleM Unit :=
  modify fun console => { console with out := console.out ++ line ++ "\n" }

/-- Writes lines. -/
def sayAll (lines : List String) : ConsoleM Unit :=
  lines.forM say

/-- Acts on the session. -/
def onSession (action : SessionM α) : ConsoleM α := fun console =>
  match action console.device with
  | .ok x device => .ok x { console with device }
  | .error error device => .error (.failed error) { console with device }

/-- Acts on the store alone. -/
def onStore (action : StoreM α) : ConsoleM α :=
  onSession (SessionM.onStore action)

/-- Acts on the cached paths, none of which was looked at before. -/
def onPaths (action : Routing.PathM α) : ConsoleM α :=
  onStore fun store =>
    match action { store } with
    | .ok x cache => .ok x cache.store
    | .error error cache => .error error cache.store

/-! ### The account -/

/-- Shows the account. -/
def showInfo (dataDir : String) : ConsoleM Unit := do
  let ring ← onSession do pure (← SessionM.session).ring
  sayAll ["Swarmsync v0.1.0", "", "Account:", "  ID: " ++ ring.user.hex, "",
    "Data directory: " ++ dataDir]

/-- Shows the profile. -/
def showProfile : ConsoleM Unit := do
  let profile ← onSession do
    SessionM.ofExcept (Profile.read (← SessionM.read .userProfile .account))
  say "Profile:"
  say ("  Name: " ++ profile.name.getD "(not set)")
  profile.picture.forM fun picture => say ("  Picture: " ++ picture.url)
  say ("  Note to self priority: " ++ Decimal.ofInt profile.notesPriority.toInt)

/-- Edits an object of the account. -/
def edit (variant : Variant) (step : EditM α) : ConsoleM α :=
  onSession do SessionM.ofExcept (← SessionM.edit variant .account step)

/-- Sets the name of the profile. -/
def setName (name : String) : ConsoleM Unit := do
  let changed ← edit .userProfile (Profile.setName name)
  say (if changed then "Name set to: " ++ name else "Name unchanged.")

/-- A contact in a list. -/
def contactLine (c : Contact) : String :=
  "  " ++ c.id.hex ++ " " ++ c.displayName.getD "(no name)" ++
    (if c.isVisible then "" else " (hidden)") ++
    " [added " ++ Calendar.minuteText c.created ++ "]"

/-- Lists the contacts. -/
def listContacts : ConsoleM Unit := do
  let contacts ← onSession do
    SessionM.ofExcept ((← SessionM.read .contacts .account).records Contact)
  if contacts.isEmpty then say "No contacts."
  else
    say ("Contacts (" ++ Decimal.ofNat contacts.length ++ "):")
    sayAll (contacts.map contactLine)

/-- Adds a contact or approves one that is there, and names it where a name is given. -/
def addContactEdit (now : Int64) (id : Identity) (name : Option String) : EditM Bool := do
  let found ← EditM.record? Contact id.hex
  let contact := found.getD { id, created := now }
  EditM.setRecord { contact with name := name <|> contact.name, approved := true }

/-- Adds a contact. -/
def addContact (text : String) (name : Option String) : ConsoleM Unit := do
  match Identity.read text with
  | .error error => throw (.badContact text error)
  | .ok id =>
    if id.isGroup then throw (.groupContact text)
    let now ← onSession SessionM.now
    discard (edit .contacts (addContactEdit now id name))
    say ("Added contact: " ++ id.hex)

/-- A text filled up with blanks. -/
def padRight (width : Nat) (text : String) : String :=
  text ++ String.ofList (List.replicate (width - text.length) ' ')

/-- An object in a list. -/
def statusLine (o : Object) : String :=
  "  " ++ padRight 20 o.variant.name ++ " seqno " ++ padRight 4 (Decimal.ofNat o.seqno.toNat) ++
    " entries " ++ padRight 4 (Decimal.ofNat o.state.liveCount) ++
    " hash " ++ String.ofList (o.state.hash.toList.take 16) ++
    (if o.dirty then " needs push" else " pushed")

/-- Shows the revision, hash and push state of the account's objects. -/
def showStatus : ConsoleM Unit := do
  say "User configs:"
  let objects ← onSession do (← SessionM.accountObjects).mapM SessionM.object
  sayAll (objects.map statusLine)

/-! ### Routing -/

/-- A node in a list. -/
def nodeLine (indent : String) (node : Routing.Node) : String :=
  indent ++ node.address ++ ":" ++ Decimal.ofNat node.port.toNat

/-- A path in a list. -/
def pathLines (path : Routing.Path) : List String :=
  ("  Path " ++ Decimal.ofNat path.index.val ++ ":") :: path.hops.toList.map (nodeLine "    ")

/-- Shows the cached paths. -/
def showPaths : ConsoleM Unit := do
  let paths ← onPaths Routing.PathM.paths
  if paths.isEmpty then say "No paths cached."
  else
    say ("Paths (" ++ Decimal.ofNat paths.length ++ "):")
    sayAll (paths.flatMap pathLines)

/-- The lines of a list of nodes: without blanks around them, empty lines and comments. -/
def nodeTexts (text : String) : List String :=
  let lines := (text.toList.splitOn '\n').map Text.trim
  (lines.filter fun line => !line.isEmpty && line.head? != some '#').map String.ofList

/-- The nodes of a list. -/
def readNodes (text : String) : Except Fault Routing.NodeSet := do
  let nodes ← (nodeTexts text).mapM fun line =>
    (Routing.Node.read line).mapError fun error => .badNode line error
  pure (Std.ExtTreeSet.ofList nodes)

/-- Reads a list of nodes from a file. -/
def readNodeFile (around : Surroundings) (name : String) : Except Fault Routing.NodeSet :=
  match around.file name with
  | .error cause => .error (.unreadable name cause)
  | .ok text => readNodes text

/-- Runs an action and keeps its error as a result. -/
def attempt (action : ConsoleM α) : ConsoleM (Except Fault α) := fun console =>
  match action console with
  | .ok x console => .ok (.ok x) console
  | .error fault console => .ok (.error fault) console

/-- Replaces the pool by the nodes of a file, and builds paths from it. -/
def importPool (around : Surroundings) (name : String) : ConsoleM Unit := do
  match readNodeFile around name with
  | .error fault => throw fault
  | .ok nodes =>
    onStore (Routing.Pool.set nodes)
    let pool ← onStore Routing.Pool.get
    say ("Imported " ++ Decimal.ofNat pool.size ++ " nodes.")
    match ← attempt (onPaths (Routing.PathM.rebuild around.shuffle pool)) with
    | .ok _ => showPaths
    | .error (.failed (.insufficientNodes needed available)) =>
      say ("Not enough nodes to build paths (need " ++ Decimal.ofNat needed ++ ", have " ++
        Decimal.ofNat available ++ ").")
    | .error fault => throw fault

/-- Shows the pool. -/
def showPool : ConsoleM Unit := do
  let pool ← onStore Routing.Pool.get
  if pool.isEmpty then say "Node pool is empty."
  else
    say ("Node pool (" ++ Decimal.ofNat pool.size ++ "):")
    sayAll (pool.toList.map (nodeLine "  "))

/-- Shows the swarm of a destination. -/
def showSwarm (destination : String) : ConsoleM Unit := do
  match ← onStore (Routing.Swarm.get? destination) with
  | none => say ("No swarm cached for " ++ destination ++ ".")
  | some nodes =>
    say ("Swarm of " ++ destination ++ " (" ++ Decimal.ofNat nodes.size ++ "):")
    sayAll (nodes.toList.map (nodeLine "  "))

/-- Runs a command. -/
def run (around : Surroundings) (dataDir : String) : Command → ConsoleM Unit
  | .info => showInfo dataDir
  | .showProfile => showProfile
  | .setName name => setName name
  | .listContacts => listContacts
  | .addContact id name => addContact id name
  | .status => showStatus
  | .showPaths => showPaths
  | .clearPaths => do
    onPaths Routing.PathM.clear
    say "Paths cleared."
  | .importPool file => importPool around file
  | .showPool => showPool
  | .showSwarm destination => showSwarm destination

end ConsoleM

/-- What a run leaves behind: its exit code, what it wrote, and the store. -/
structure Outcome where
  code : Nat
  out : String
  err : String
  store : Store

/-- Runs a command on a store. The account is opened first, or made. -/
def execute (around : Surroundings) (dataDir : String) (command : Command) (store : Store) :
    Outcome :=
  match Account.openOrCreate { store, entropy := around.entropy } with
  | .error fault vault =>
    { code := 1, out := "", err := (Fault.account fault).report, store := vault.store }
  | .ok ring vault =>
    let device : Device :=
      { session := { ring }, store := vault.store, entropy := vault.entropy, clock := around.clock }
    match ConsoleM.run around dataDir command { device } with
    | .ok () console => { code := 0, out := console.out, err := "", store := console.device.store }
    | .error fault console =>
      { code := 1, out := console.out, err := fault.report, store := console.device.store }

end ConfigReplica.Cli
