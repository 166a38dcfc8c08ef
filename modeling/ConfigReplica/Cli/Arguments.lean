/-!
# Arguments

The command line has a command of one or two words, each of which may be followed by switches, and
then the command's operands. Switches are a letter after a hyphen or a word after two, letters may
stand together, and a value follows directly, after an equals sign, or as the next argument. After
two hyphens alone all arguments are operands.

What is read is a level at a time (`Level`): the switches up to a word of the command, and the
operands after the last one.
-/

namespace ConfigReplica.Cli

/-- What the program can be told to do. -/
inductive Command where
  | info
  | showProfile
  | setName (name : String)
  | listContacts
  | addContact (id : String) (name : Option String)
  | status
  | showPaths
  | clearPaths
  | importPool (file : String)
  | showPool
  | showSwarm (destination : String)
  deriving DecidableEq, Repr

/-- A command with what goes for all commands. -/
structure Invocation where
  command : Command
  dataDir : Option String := none
  verbosity : Nat := 0
  deriving DecidableEq, Repr

/-- Why there is no command to run. -/
inductive Stop where
  /-- The arguments are wrong. -/
  | misuse
  /-- Help is asked for. -/
  | help
  /-- The version is asked for. -/
  | version
  deriving DecidableEq, Repr

/-! ### Levels -/

/-- What a value may be: any text, or a path, which is not empty. -/
inductive ValueKind where
  | text
  | path
  deriving DecidableEq, Repr

/-- What a switch does. -/
inductive SwitchKind where
  | help
  | version
  /-- It is counted. -/
  | count
  /-- It has a value, and may be given once. -/
  | value (kind : ValueKind)
  deriving DecidableEq, Repr

/-- A switch with its letter and its word. -/
structure Switch where
  letter : Char
  word : String
  kind : SwitchKind
  deriving DecidableEq, Repr

/-- What may stand at one place of the command line. -/
structure Level where
  switches : List Switch
  /-- The next words of the command. -/
  words : List String := []
  operands : List ValueKind := []

/-- What was given at a level. -/
structure Given where
  count : Nat := 0
  values : List (String × String) := []
  operands : List String := []

/-- Whether a text is such a value. -/
def ValueKind.admits : ValueKind → String → Bool
  | .text, _ => true
  | .path, value => !value.isEmpty

/-- Takes the value of a switch. -/
def Given.setValue (given : Given) (switch : Switch) (kind : ValueKind) (value : String) :
    Except Stop Given :=
  if (given.values.lookup switch.word).isSome ∨ !kind.admits value then .error .misuse
  else .ok { given with values := (switch.word, value) :: given.values }

/-- Takes an operand. -/
def Given.addOperand (given : Given) (level : Level) (value : String) : Except Stop Given :=
  match level.operands[given.operands.length]? with
  | some kind =>
    if kind.admits value then .ok { given with operands := given.operands ++ [value] }
    else .error .misuse
  | none => .error .misuse

/-- What was given, and the switch that still needs its value. -/
abbrev Pending := Given × Option (Switch × ValueKind)

/-- Reads letters after a hyphen. -/
def readLetters (level : Level) (given : Given) : List Char → Except Stop Pending
  | [] => .ok (given, none)
  | letter :: rest =>
    match level.switches.find? fun switch => switch.letter == letter with
    | none => .error .misuse
    | some switch =>
      match switch.kind with
      | .help => .error .help
      | .version => .error .version
      | .count => readLetters level { given with count := given.count + 1 } rest
      | .value kind =>
        match rest with
        | [] => .ok (given, some (switch, kind))
        | '=' :: value => do pure (← given.setValue switch kind (String.ofList value), none)
        | value => do pure (← given.setValue switch kind (String.ofList value), none)

/-- Reads a word after two hyphens. -/
def readWord (level : Level) (given : Given) (text : List Char) : Except Stop Pending :=
  let word := String.ofList (text.takeWhile (· ≠ '='))
  let attached := (text.dropWhile (· ≠ '=')).tail?
  match level.switches.find? fun switch => switch.word == word with
  | none => .error .misuse
  | some switch =>
    match switch.kind, attached with
    | .help, none => .error .help
    | .version, none => .error .version
    | .count, none => .ok ({ given with count := given.count + 1 }, none)
    | .value kind, none => .ok (given, some (switch, kind))
    | .value kind, some value => do pure (← given.setValue switch kind (String.ofList value), none)
    | _, some _ => .error .misuse

/-- Whether an argument may be the value of the switch before it. -/
def isValue (arg : String) : Bool :=
  match arg.toList with
  | '-' :: _ :: _ => false
  | _ => true

/-- Gives a switch that needs one its value. Gives the arguments after it. -/
def supply : Pending → List String → Except Stop (Given × List String)
  | (given, none), rest => .ok (given, rest)
  | (_, some _), [] => .error .misuse
  | (given, some (switch, kind)), value :: rest =>
    if isValue value then do pure (← given.setValue switch kind value, rest) else .error .misuse

theorem length_supply {pending : Pending} {args : List String} {given : Given}
    {rest : List String} (h : supply pending args = .ok (given, rest)) :
    rest.length ≤ args.length := by
  unfold supply at h
  split at h
  · cases h; exact Nat.le_refl _
  · cases h
  · split at h
    · rename_i given switch kind value after _
      cases set : Given.setValue given switch kind value with
      | error stop => simp [set, bind, Except.bind] at h
      | ok g =>
        simp only [set, bind, Except.bind, pure, Except.pure, Except.ok.injEq, Prod.mk.injEq] at h
        obtain ⟨_, rfl⟩ := h
        simp
    · cases h

/-- Reads a level. Gives the arguments from the next word of the command on; `plain` says that all
arguments are operands. -/
def readLevel (level : Level) (given : Given) (plain : Bool) (args : List String) :
    Except Stop (Given × List String) :=
  match args with
  | [] => .ok (given, [])
  | arg :: rest =>
    if plain then do readLevel level (← given.addOperand level arg) true rest
    else if level.words.contains arg then .ok (given, arg :: rest)
    else
      match arg.toList with
      | ['-', '-'] => readLevel level given true rest
      | '-' :: '-' :: word =>
        match readWord level given word with
        | .error stop => .error stop
        | .ok pending =>
          match h : supply pending rest with
          | .error stop => .error stop
          | .ok (given, after) =>
            have := length_supply h
            readLevel level given false after
      | '-' :: letter :: letters =>
        match readLetters level given (letter :: letters) with
        | .error stop => .error stop
        | .ok pending =>
          match h : supply pending rest with
          | .error stop => .error stop
          | .ok (given, after) =>
            have := length_supply h
            readLevel level given false after
      | _ => do readLevel level (← given.addOperand level arg) false rest
termination_by args.length
decreasing_by all_goals simp_wf; try omega

/-! ### The command line -/

/-- The switches of every level. -/
def commonSwitches : List Switch :=
  [⟨'h', "help", .help⟩, ⟨'d', "data-dir", .value .path⟩]

/-- The first words of commands. -/
def topics : List String :=
  ["info", "profile", "contact", "config", "paths", "pool", "swarm"]

/-- The second words after a first one. -/
def actions : String → List String
  | "profile" => ["show", "set-name"]
  | "contact" => ["list", "add"]
  | "config" => ["status"]
  | "paths" => ["show", "clear"]
  | "pool" => ["import", "show"]
  | "swarm" => ["show"]
  | _ => []

/-- The word that asks for help on a command. -/
def helpWord : String := "help"

/-- What stands before the command. -/
def topLevel : Level where
  switches := commonSwitches ++ [⟨'V', "version", .version⟩, ⟨'v', "verbose", .count⟩]
  words := topics ++ [helpWord]

/-- What stands between the words of a command. -/
def topicLevel (topic : String) : Level where
  switches := commonSwitches
  words := actions topic ++ [helpWord]

/-- What stands after the last word of a command. -/
def actionLevel : List String → Level
  | ["profile", "set-name"] => { switches := commonSwitches, operands := [.text] }
  | ["contact", "add"] =>
    { switches := commonSwitches ++ [⟨'n', "name", .value .text⟩], operands := [.text] }
  | ["pool", "import"] => { switches := commonSwitches, operands := [.path] }
  | ["swarm", "show"] => { switches := commonSwitches, operands := [.text] }
  | _ => { switches := commonSwitches }

/-- The command of these words and operands. -/
def commandOf (words : List String) (given : Given) : Except Stop Command :=
  match words, given.operands with
  | ["info"], [] => .ok .info
  | ["profile", "show"], [] => .ok .showProfile
  | ["profile", "set-name"], [name] => .ok (.setName name)
  | ["contact", "list"], [] => .ok .listContacts
  | ["contact", "add"], [id] => .ok (.addContact id (given.values.lookup "name"))
  | ["config", "status"], [] => .ok .status
  | ["paths", "show"], [] => .ok .showPaths
  | ["paths", "clear"], [] => .ok .clearPaths
  | ["pool", "import"], [file] => .ok (.importPool file)
  | ["pool", "show"], [] => .ok .showPool
  | ["swarm", "show"], [destination] => .ok (.showSwarm destination)
  | _, _ => .error .misuse

/-- Help on the command of these words, if there is one. -/
def helpOn : List String → Stop
  | [] => .help
  | [topic] => if topics.contains topic then .help else .misuse
  | [topic, action] =>
    if topics.contains topic ∧ (actions topic).contains action then .help else .misuse
  | _ => .misuse

/-- Reads the words of a command after those before, and its operands. Gives what was given at the
last level, and the data directory of the deepest level that has one. -/
def readCommand (dataDir : Option String) (words args : List String) :
    Except Stop (Command × Option String) := do
  let (given, _) ← readLevel (actionLevel words) {} false args
  let command ← commandOf words given
  pure (command, given.values.lookup "data-dir" <|> dataDir)

/-- Reads the second word of a command and what follows. -/
def readTopic (dataDir : Option String) (topic : String) (args : List String) :
    Except Stop (Command × Option String) := do
  let (given, rest) ← readLevel (topicLevel topic) {} false args
  let dataDir := given.values.lookup "data-dir" <|> dataDir
  match rest with
  | [] => .error .misuse
  | action :: rest =>
    if action = helpWord then .error (helpOn (topic :: rest))
    else readCommand dataDir [topic, action] rest

/-- Reads a command line. -/
def Invocation.read (args : List String) : Except Stop Invocation := do
  let (given, rest) ← readLevel topLevel {} false args
  let dataDir := given.values.lookup "data-dir"
  match rest with
  | [] => .error .misuse
  | topic :: rest =>
    if topic = helpWord then .error (helpOn rest)
    else
      let (command, dataDir) ←
        if topic = "info" then readCommand dataDir [topic] rest
        else readTopic dataDir topic rest
      pure { command, dataDir, verbosity := given.count }

end ConfigReplica.Cli
