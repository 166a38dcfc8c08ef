import ConfigReplica.Cli.Arguments

/-!
# Usage

What the program shows where a command line holds no command to run: help or the version, if these
are asked for, and otherwise help as a complaint, with an exit code that says so.
-/

namespace ConfigReplica.Cli

/-- What is shown when help is asked for. -/
def helpText : String :=
  "Usage: swarmsync [OPTIONS] <COMMAND>\n\n" ++
  "Commands:\n" ++
  "  info                           Show account information\n" ++
  "  profile show                   Show the profile\n" ++
  "  profile set-name <NAME>        Set the display name\n" ++
  "  contact list                   List contacts\n" ++
  "  contact add <ID> [--name <N>]  Add or update a contact\n" ++
  "  config status                  Show the state of every user config\n" ++
  "  paths show                     Show the cached paths\n" ++
  "  paths clear                    Drop both paths\n" ++
  "  pool import <FILE>             Replace the pool from a file and rebuild paths\n" ++
  "  pool show                      List the pool\n" ++
  "  swarm show <DESTINATION>       Show the cached swarm of a destination\n\n" ++
  "Options:\n" ++
  "  -v, --verbose                  Increase verbosity\n" ++
  "  -d, --data-dir <DATA_DIR>      Data directory (default: ~/.swarmsync/data)\n" ++
  "  -h, --help                     Print help\n" ++
  "  -V, --version                  Print version\n"

/-- What is shown when the version is asked for. -/
def versionText : String :=
  "swarmsync 0.1.0\n"

namespace Stop

/-- The exit code. -/
def code : Stop → Nat
  | misuse => 2
  | help | version => 0

/-- What is shown of what was asked for. -/
def text : Stop → String
  | misuse => ""
  | help => helpText
  | version => versionText

/-- What is shown of wrong arguments. -/
def complaint : Stop → String
  | misuse => helpText
  | help | version => ""

end Stop

end ConfigReplica.Cli
