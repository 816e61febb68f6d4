import ContainerClients.CommandLine.Arguments
import ContainerClients.CommandLine.Usage

/-!
# Invocations

An invocation is what a command line asks for.

* `CatalogChoice` — the options that configure a catalog.
* `Task` — a subcommand with its options.
* `Invocation.parse` — the invocation of a command line, or the answer that ends the program at
  once.

The words behind a subcommand are read by the grammar of the subcommand.  Words without a meaning,
wherever they stand, are reported last and by the program as a whole.
-/

namespace ContainerClients.CommandLine

/-- **The options that configure a catalog.** -/
structure CatalogChoice where
  /-- the mounts, if any are given -/
  mounts : Datum
  /-- the default image -/
  image : Datum
  /-- the default container name -/
  containerName : Datum
  /-- the default priority -/
  priority : Datum

/-- **What is asked for.** -/
inductive Task where
  /-- the help text -/
  | showHelp
  /-- the registered clients -/
  | clients (catalog : CatalogChoice) (asJson : Bool)
  /-- the command of a client -/
  | command (catalog : CatalogChoice) (id : String) (attach asJson : Bool)
  /-- a path on the other side of the mounts -/
  | translate (catalog : CatalogChoice) (path : String) (toHost : Bool)
  /-- a client's server -/
  | run (catalog : CatalogChoice) (id : String) (attach : Bool)
  /-- the state of the container runtime -/
  | doctor (asJson : Bool)

/-- **What a command line asks for.** -/
structure Invocation where
  /-- report more -/
  verbose : Bool
  /-- the command of the container runtime -/
  runtime : Datum
  /-- what is asked for -/
  task : Task

/-- **An answer that ends the program at once.** -/
structure Reply where
  /-- the exit status -/
  exit : Int
  /-- what goes to the standard output -/
  stdout : String := ""
  /-- what goes to the standard error output -/
  stderr : String := ""

/-- The answer to a command line that stops the reading. -/
def Stop.reply (subcommand : Option Subcommand) : Stop → Reply
  | .fault problem => { exit := 2, stderr := usageError subcommand problem }
  | .help => { exit := 0, stdout := CommandLine.help subcommand }
  | .version => { exit := 0, stdout := versionText }

namespace Parsed

/-- Whether an option is given. -/
def has (parsed : Parsed) (option : OptionName) : Bool := parsed.switches.contains option

/-- The last value of an option. -/
def value (parsed : Parsed) (option : OptionName) : Datum :=
  ((parsed.values.filter (·.1 == option)).getLast?.map (·.2)).getD .null

/-- All values of an option; nothing if it is not given. -/
def allValues (parsed : Parsed) (option : OptionName) : Datum :=
  match parsed.values.filter (·.1 == option) with
  | [] => .null
  | given => .list (given.map (·.2))

/-- The options that configure a catalog. -/
def catalogChoice (parsed : Parsed) : CatalogChoice where
  mounts := parsed.allValues .map
  image := parsed.value .image
  containerName := parsed.value .name
  priority := parsed.value .priority

/-- The positional word. -/
def word (parsed : Parsed) : String := (parsed.positional.bind List.head?).getD ""

/-- What a subcommand with its options asks for. -/
def task (parsed : Parsed) : Subcommand → Task
  | .clients => .clients parsed.catalogChoice (parsed.has .json)
  | .command => .command parsed.catalogChoice parsed.word (parsed.has .exec) (parsed.has .json)
  | .translate => .translate parsed.catalogChoice parsed.word (parsed.has .toHost)
  | .run => .run parsed.catalogChoice parsed.word (parsed.has .exec)
  | .doctor => .doctor (parsed.has .json)

end Parsed

namespace Invocation

/-- The task of the words from the subcommand on, with the words without a meaning. -/
def parseTask : List String → Except Reply (Task × List String)
  | [] => .ok (.showHelp, [])
  | word :: rest =>
    match Subcommand.ofWord? word with
    | none => .error (Stop.reply none (.fault (.unknownSubcommand word)))
    | some subcommand =>
      match subcommand.grammar.parse rest with
      | .error stop => .error (stop.reply (some subcommand))
      | .ok parsed => .ok (parsed.task subcommand, parsed.extras)

/-- **The invocation of a command line.** -/
def parse (arguments : List String) : Except Reply Invocation :=
  match topGrammar.parse arguments with
  | .error stop => .error (stop.reply none)
  | .ok parsed =>
    match parseTask (parsed.positional.getD []) with
    | .error reply => .error reply
    | .ok (task, extras) =>
      let unknown := parsed.extras ++ extras
      if unknown.isEmpty then .ok ⟨parsed.has .verbose, parsed.value .runtime, task⟩
      else .error (Stop.reply none (.fault (.unrecognized unknown)))

end Invocation

end ContainerClients.CommandLine
