import ContainerClients.Failure

/-!
# Options of the command line

The program has six sets of options: its own, and one for each of its five subcommands.

* `OptionName` — the options, with their spellings and what each takes.
* `Subcommand` — the subcommands.
* `Grammar` — which options and which positional word are accepted in a place.
* `UsageFault` — what can be wrong with a command line, and the wording.
-/

namespace ContainerClients.CommandLine

/-- **An option.** -/
inductive OptionName where
  /-- shows the help text -/
  | help
  /-- shows the version -/
  | version
  /-- reports more -/
  | verbose
  /-- the command of the container runtime -/
  | runtime
  /-- a mount -/
  | map
  /-- the default image -/
  | image
  /-- the default container name -/
  | name
  /-- the default priority -/
  | priority
  /-- enters a running container -/
  | exec
  /-- writes JSON -/
  | json
  /-- translates towards the host -/
  | toHost
deriving DecidableEq, Repr

namespace OptionName

/-- The spellings of an option. -/
def spellings : OptionName → List String
  | .help => ["-h", "--help"]
  | .version => ["--version"]
  | .verbose => ["-v", "--verbose"]
  | .runtime => ["--runtime"]
  | .map => ["--map"]
  | .image => ["--image"]
  | .name => ["--name"]
  | .priority => ["--priority"]
  | .exec => ["--exec"]
  | .json => ["--json"]
  | .toHost => ["--to-host"]

/-- Whether an option takes a value. -/
def takesValue : OptionName → Bool
  | .runtime | .map | .image | .name | .priority => true
  | _ => false

/-- What a fault calls an option. -/
def label (option : OptionName) : String := "/".intercalate option.spellings

end OptionName

/-- **A subcommand.** -/
inductive Subcommand where
  /-- lists the registered clients -/
  | clients
  /-- shows the command of a client -/
  | command
  /-- translates a path -/
  | translate
  /-- starts a client's server -/
  | run
  /-- checks the container runtime -/
  | doctor
deriving DecidableEq, Repr

namespace Subcommand

/-- The word for a subcommand. -/
def word : Subcommand → String
  | .clients => "clients"
  | .command => "command"
  | .translate => "translate"
  | .run => "run"
  | .doctor => "doctor"

/-- All subcommands. -/
def all : List Subcommand := [.clients, .command, .translate, .run, .doctor]

/-- The subcommand of a word. -/
def ofWord? (word : String) : Option Subcommand := all.find? (·.word == word)

theorem ofWord?_word (s : Subcommand) : ofWord? s.word = some s := by cases s <;> decide

end Subcommand

/-- **The positional word** that is expected. -/
inductive Positional where
  /-- a single word -/
  | single (name : String)
  /-- a subcommand with all that follows it -/
  | subcommand
deriving DecidableEq, Repr

/-- **What is accepted in a place.** -/
structure Grammar where
  /-- the options -/
  options : List OptionName
  /-- the positional word -/
  positional : Option Positional

/-- The grammar before a subcommand. -/
def topGrammar : Grammar := ⟨[.help, .version, .verbose, .runtime], some .subcommand⟩

/-- The options that configure a catalog (`_add_catalog_arguments`). -/
def catalogOptions : List OptionName := [.map, .image, .name, .priority]

/-- The grammar behind a subcommand. -/
def Subcommand.grammar : Subcommand → Grammar
  | .clients => ⟨.help :: catalogOptions ++ [.json], none⟩
  | .command => ⟨.help :: catalogOptions ++ [.exec, .json], some (.single "server_id")⟩
  | .translate => ⟨.help :: catalogOptions ++ [.toHost], some (.single "path")⟩
  | .run => ⟨.help :: catalogOptions ++ [.exec], some (.single "server_id")⟩
  | .doctor => ⟨[.help, .json], none⟩

/-- **What is wrong with a command line.** -/
inductive UsageFault where
  /-- a shortened option that several options start with -/
  | ambiguous (word : String) (candidates : List String)
  /-- an option without its value -/
  | valueExpected (option : OptionName)
  /-- a value at an option that takes none -/
  | valueIgnored (option : OptionName) (value : String)
  /-- a value that is no whole number -/
  | notWhole (option : OptionName) (value : String)
  /-- a word that is no subcommand -/
  | unknownSubcommand (word : String)
  /-- a positional word that is missing -/
  | missing (name : String)
  /-- words that have no meaning -/
  | unrecognized (words : List String)
deriving DecidableEq, Repr

/-- **The wording of a fault.** -/
def UsageFault.message : UsageFault → String
  | .ambiguous word candidates =>
    "ambiguous option: " ++ word ++ " could match " ++ ", ".intercalate candidates
  | .valueExpected option => "argument " ++ option.label ++ ": expected one argument"
  | .valueIgnored option value =>
    "argument " ++ option.label ++ ": ignored explicit argument " ++ Text.literal value
  | .notWhole option value =>
    "argument " ++ option.label ++ ": invalid int value: " ++ Text.literal value
  | .unknownSubcommand word =>
    "argument command: invalid choice: " ++ Text.literal word ++ " (choose from "
      ++ ", ".intercalate (Subcommand.all.map fun s => Text.literal s.word) ++ ")"
  | .missing name => "the following arguments are required: " ++ name
  | .unrecognized words => "unrecognized arguments: " ++ " ".intercalate words

end ContainerClients.CommandLine
