import ContainerClients.CommandLine.Options
import ContainerClients.Version

/-!
# Usage and help texts

The program and each subcommand have a usage text and a help text.  The help text starts with the
usage text; a faulty command line is answered with the usage text and the fault.

* `usage`, `help` — the texts, of the program (`none`) or of a subcommand.
* `usageError` — the answer to a faulty command line.
* `versionText` — the answer to a question for the version.
-/

namespace ContainerClients.CommandLine

/-- The name of the program. -/
def programName : String := "lsp-docker"

/-- The name by which a fault speaks of the program or of a subcommand. -/
def fullProgramName : Option Subcommand → String
  | none => programName
  | some subcommand => programName ++ " " ++ subcommand.word

/-- Lines as a text. -/
def joinLines (lines : List String) : String := String.join (lines.map (· ++ "\n"))

/-- The lines of a usage text. -/
def usageLines : Option Subcommand → List String
  | none =>
    ["usage: lsp-docker [-h] [--version] [-v] [--runtime RUNTIME]",
     "                  \x7bclients,command,translate,run,doctor\x7d ..."]
  | some .clients =>
    ["usage: lsp-docker clients [-h] [--map HOST:CONTAINER] [--image IMAGE]",
     "                          [--name NAME] [--priority PRIORITY] [--json]"]
  | some .command =>
    ["usage: lsp-docker command [-h] [--map HOST:CONTAINER] [--image IMAGE]",
     "                          [--name NAME] [--priority PRIORITY] [--exec]",
     "                          [--json]",
     "                          server_id"]
  | some .translate =>
    ["usage: lsp-docker translate [-h] [--map HOST:CONTAINER] [--image IMAGE]",
     "                            [--name NAME] [--priority PRIORITY] [--to-host]",
     "                            path"]
  | some .run =>
    ["usage: lsp-docker run [-h] [--map HOST:CONTAINER] [--image IMAGE]",
     "                      [--name NAME] [--priority PRIORITY] [--exec]",
     "                      server_id"]
  | some .doctor => ["usage: lsp-docker doctor [-h] [--json]"]

/-- **The usage text.** -/
def usage (subcommand : Option Subcommand) : String := joinLines (usageLines subcommand)

/-- The help of the options that configure a catalog. -/
def catalogHelpLines : List String :=
  ["  -h, --help            show this help message and exit",
   "  --map HOST:CONTAINER  Bind-mount pair; repeat for several roots (first match",
   "                        wins)",
   "  --image IMAGE         Default image for container clients",
   "  --name NAME           Default container base name",
   "  --priority PRIORITY   Default registration priority"]

/-- The help of a client's id. -/
def clientIdHelpLines : List String :=
  ["positional arguments:", "  server_id             Container client id, e.g. pyls-docker", ""]

/-- The help of entering a running container. -/
def execHelpLine : String :=
  "  --exec                Attach to a running container instead of starting one"

/-- The lines of a help text behind the usage text. -/
def helpLines : Option Subcommand → List String
  | none =>
    ["Run editor language servers inside containers, translating host paths",
     "",
     "positional arguments:",
     "  \x7bclients,command,translate,run,doctor\x7d",
     "                        Commands",
     "    clients             List registered clients",
     "    command             Print the runtime command for a container client",
     "    translate           Translate a path across the mount",
     "    run                 Start a container client and bridge it to this",
     "                        process's stdio",
     "    doctor              Check container runtime readiness",
     "",
     "options:",
     "  -h, --help            show this help message and exit",
     "  --version             show program's version number and exit",
     "  -v, --verbose         Log debug output to stderr",
     "  --runtime RUNTIME     Container runtime command (default: docker)"]
  | some .clients =>
    "options:" :: catalogHelpLines ++ ["  --json                Output as JSON"]
  | some .command =>
    clientIdHelpLines ++ "options:" :: catalogHelpLines
      ++ [execHelpLine, "  --json                Output argv as JSON"]
  | some .translate =>
    ["positional arguments:",
     "  path                  Host path, or server URI with --to-host",
     "",
     "options:"]
      ++ catalogHelpLines
      ++ ["  --to-host             Translate a container URI to a host path"]
  | some .run => clientIdHelpLines ++ "options:" :: catalogHelpLines ++ [execHelpLine]
  | some .doctor =>
    ["options:",
     "  -h, --help  show this help message and exit",
     "  --json      Output as JSON"]

/-- **The help text.** -/
def help (subcommand : Option Subcommand) : String :=
  usage subcommand ++ "\n" ++ joinLines (helpLines subcommand)

/-- **The answer to a faulty command line.** -/
def usageError (subcommand : Option Subcommand) (fault : UsageFault) : String :=
  usage subcommand ++ fullProgramName subcommand ++ ": error: " ++ fault.message ++ "\n"

/-- The answer to a question for the version. -/
def versionText : String := programName ++ " " ++ version ++ "\n"

end ContainerClients.CommandLine
