import ContainerClients.Bridge
import ContainerClients.Catalog
import ContainerClients.CommandLine.Doctor
import ContainerClients.CommandLine.Invocation

/-!
# Carrying out an invocation

* `Machine` — what an invocation finds: its surroundings, the runtime's probe, how servers are
  started, and the editor's input.
* `Stock`, `Execution` — what an invocation changes, and what comes of it.
* `execute` — carrying out a command line.
* `listing` — the clients as the `clients` subcommand shows them.

Failures of the library end the program with status 1, other faults of a value with status 2; either
way the failure goes to the standard error output.  Any other failure is not handled here.
-/

namespace ContainerClients.CommandLine

open ContainerClients.Container

/-- **What an invocation finds.** -/
structure Machine where
  /-- the environment and what is installed -/
  around : Surroundings
  /-- what looking for the runtime comes to -/
  probe : Probe
  /-- how servers are started -/
  spawn : Spawn
  /-- what the editor writes -/
  input : List UInt8

/-- **How the program ends.** -/
inductive Ending where
  /-- with an exit status -/
  | exited (code : Int)
  /-- with a failure that is not handled -/
  | failed (failure : Failure)

/-- **What an invocation changes**: what is registered and imported, and the counters. -/
structure Stock where
  /-- what is registered and imported -/
  holdings : Holdings
  /-- where the counters stand -/
  counters : Counters

/-- **What comes of an invocation.** -/
structure Execution where
  /-- how the program ends -/
  ending : Ending
  /-- what goes to the standard output -/
  stdout : String
  /-- what goes to the standard error output -/
  stderr : String
  /-- the commands that were run to look at the runtime -/
  probed : List (List String)
  /-- what it changed -/
  stock : Stock
  /-- the requests that a launcher answered in a way of its own -/
  calls : List LaunchRequest := []

/-! ## Reporting -/

/-- An event as a line. -/
def eventLine (event : Event) : String :=
  event.level.name ++ " " ++ event.origin ++ ": " ++ event.message

/-- The level from which on events are shown. -/
def shownLevel (verbose : Bool) : Level := if verbose then .debug else .warning

/-- What is reported, as text. -/
def logText (verbose : Bool) (log : Log) : String :=
  joinLines ((log.atLeast (shownLevel verbose)).map eventLine)

/-! ## Clients as they are shown -/

/-- **A client as it is shown** (`_describe`). -/
structure Entry where
  /-- its id -/
  id : ClientId
  /-- whether it was made by this run for a container -/
  inContainer : Bool
  /-- its priority -/
  priority : Datum
  /-- the words of its server's command -/
  command : List String
  /-- its file extensions -/
  extensions : List String

/-- The word for the kind of a client. -/
def Entry.kind (entry : Entry) : String := if entry.inContainer then "docker" else "native"

/-- A client as it is shown, with the ids of the container clients. -/
def Entry.ofClient (containerIds : List ClientId) (client : Client) : Entry where
  id := client.id
  inContainer := containerIds.any (·.key == client.id.key)
  priority := client.priority
  command := client.command
  extensions := client.sortedExtensions

/-- **The clients of a registry as they are shown**, in the order of their ids. -/
def listing (containerIds : List ClientId) (registry : Registry) : Except Failure (List Entry) :=
  registry.ids.map fun ids =>
    (ids.filterMap registry.get?).map (Entry.ofClient containerIds)

/-- A client as a record. -/
def Entry.toDatum (entry : Entry) : Datum :=
  .record [("server_id", entry.id.toDatum), ("kind", .text entry.kind),
    ("priority", entry.priority), ("command", .ofTexts entry.command),
    ("file_extensions", .ofTexts entry.extensions)]

/-- A client as a line. -/
def Entry.line (entry : Entry) : String :=
  let command := Command.display entry.command
  entry.id.shown ++ " [" ++ entry.kind ++ ", priority " ++ entry.priority.shown ++ "]: "
    ++ (if command.isEmpty then "<none>" else command)

/-- The clients as text. -/
def listingText (asJson : Bool) (entries : List Entry) : String :=
  if asJson then
    (Datum.record [("clients", .list (entries.map Entry.toDatum))]).indentedJson ++ "\n"
  else joinLines (entries.map Entry.line)

/-! ## Tasks -/

/-- **What comes of a task**: what it prints and its exit status, or why it fails. -/
structure TaskResult where
  /-- the exit status and what is printed -/
  outcome : Except Failure (Int × String)
  /-- what it changed -/
  stock : Stock
  /-- what is reported -/
  log : Log
  /-- the requests that a launcher answered in a way of its own -/
  calls : List LaunchRequest := []

/-- The arguments that configure a catalog. -/
def CatalogChoice.arguments (choice : CatalogChoice) : CatalogArguments where
  values := [("path_mappings", choice.mounts), ("docker_image_id", choice.image),
    ("docker_container_name", choice.containerName), ("priority", choice.priority)]
  specs := none

/-- The configuration of a catalog (`_build_config`). -/
def CatalogChoice.config (choice : CatalogChoice) (env : Environment) :
    Except Failure CatalogConfig × Log :=
  CatalogConfig.ofEnvironment env choice.arguments

/-- The launcher of container clients. -/
def launcherFor (attach : Bool) (runtime : Datum) : Launcher :=
  if attach then .attach runtime else .fresh .shared runtime

/-- Fills the registry (`_init_catalog`). -/
def fillStock (machine : Machine) (stock : Stock) (choice : CatalogChoice) (launcher : Launcher) :
    Except Failure Report × Stock × Log :=
  match choice.config machine.around.env with
  | (.error failure, log) => (.error failure, stock, log)
  | (.ok config, log) =>
    let (progress, failure?) := Catalog.fill machine.around {} launcher config stock.holdings
    (match failure? with
      | some failure => .error failure
      | none => .ok progress.report,
      { stock with holdings := progress.holdings }, log ++ progress.log)

/-- Whether mounts are given, on the command line or in the environment. -/
def mountsAreGiven (env : Environment) (choice : CatalogChoice) : Bool :=
  choice.mounts.isTruthy || !(env.strippedText .mounts).isEmpty

/-- Registers the clients that are to be listed, and gives the ids of those in containers.  Without
mounts there are none in containers. -/
def stockClients (machine : Machine) (stock : Stock) (choice : CatalogChoice)
    (launcher : Launcher) : Except Failure (List ClientId) × Stock × Log :=
  if mountsAreGiven machine.around.env choice then
    let (report, stock, log) := fillStock machine stock choice launcher
    (report.map (·.registered), stock, log)
  else
    let loaded := loadPackages machine.around {} stock.holdings bundledNames
    (loaded.outcome.map fun _ => [], { stock with holdings := loaded.holdings }, loaded.log)

/-- **Listing the clients.** -/
def listClients (machine : Machine) (stock : Stock) (choice : CatalogChoice) (launcher : Launcher)
    (asJson : Bool) : TaskResult :=
  let (containerIds, stock, log) := stockClients machine stock choice launcher
  let entries := containerIds.bind fun ids => listing ids stock.holdings.registry
  { outcome := entries.map fun entries => (0, listingText asJson entries), stock, log }

/-- **Translating a path.** -/
def translatePath (machine : Machine) (stock : Stock) (choice : CatalogChoice) (path : String)
    (toHost : Bool) : TaskResult :=
  let (config, log) := choice.config machine.around.env
  let translated := config.bind fun config =>
    if toHost then config.mapping.toHostPath config.containerName.shown path
    else config.mapping.toContainerUri path
  { outcome := translated.map fun text => (0, text ++ "\n"), stock, log }

/-- Fills the registry and connects a client. -/
def connectClient (machine : Machine) (stock : Stock) (choice : CatalogChoice)
    (launcher : Launcher) (id : String) :
    Except Failure (List String) × Stock × Log × List LaunchRequest :=
  match fillStock machine stock choice launcher with
  | (.error failure, stock, log) => (.error failure, stock, log, [])
  | (.ok _, stock, log) =>
    match stock.holdings.registry.require (.text id) with
    | .error failure => (.error failure, stock, log, [])
    | .ok client =>
      let connected := client.connect machine.around.env stock.counters
      (connected.argv, { stock with counters := connected.counters }, log ++ connected.log,
        connected.calls)

/-- **Showing the command of a client.** -/
def showCommand (machine : Machine) (stock : Stock) (choice : CatalogChoice) (launcher : Launcher)
    (id : String) (asJson : Bool) : TaskResult :=
  let (argv, stock, log, calls) := connectClient machine stock choice launcher id
  ⟨argv.map fun argv =>
      (0, (if asJson then (Datum.ofTexts argv).json else Command.display argv) ++ "\n"),
    stock, log, calls⟩

/-- **Running the server of a client.** -/
def runServer (machine : Machine) (stock : Stock) (choice : CatalogChoice) (launcher : Launcher)
    (id : String) : TaskResult :=
  let (argv, stock, log, calls) := connectClient machine stock choice launcher id
  let ended := argv.bind fun argv => Bridge.start machine.spawn argv machine.input
  ⟨ended.map fun ended => ((ended.exit : Int), String.ofList (Text.Utf8.decode ended.output)),
    stock, log, calls⟩

/-! ## The program -/

/-- Ends the program with the result of a task. -/
def TaskResult.execution (result : TaskResult) (verbose : Bool) : Execution :=
  let log := logText verbose result.log
  let (ending, stdout, stderr) := match result.outcome with
    | .ok (code, text) => (Ending.exited code, text, log)
    | .error failure =>
      let line := "error: " ++ failure.message ++ "\n"
      if failure.isOwn then (.exited 1, "", log ++ line)
      else if failure.isAboutValue then (.exited 2, "", log ++ line)
      else (.failed failure, "", log)
  { ending, stdout, stderr, probed := [], stock := result.stock, calls := result.calls }

/-- An answer that leaves everything as it is. -/
def Reply.execution (reply : Reply) (stock : Stock) : Execution where
  ending := .exited reply.exit
  stdout := reply.stdout
  stderr := reply.stderr
  probed := []
  stock

/-- A failure that ends the program before anything is printed. -/
def failedExecution (failure : Failure) (probed : List (List String)) (stock : Stock) :
    Execution where
  ending := .failed failure
  stdout := ""
  stderr := ""
  probed
  stock

/-- **Checking the runtime** (`doctor`).  No failure is handled here. -/
def checkRuntime (machine : Machine) (stock : Stock) (runtime : Datum) (asJson : Bool) :
    Execution :=
  match Command.runtime machine.around.env runtime with
  | .error failure => failedExecution failure [] stock
  | .ok runtime =>
    match RuntimeStatus.check machine.probe runtime with
    | (.error failure, probed) => failedExecution failure probed stock
    | (.ok status, probed) =>
      let text := if asJson then status.json ++ "\n" else joinLines status.lines
      { (Reply.mk (if status.available then 0 else 1) text "").execution stock with probed }

/-- **Carrying out an invocation.** -/
def Invocation.execute (invocation : Invocation) (machine : Machine) (stock : Stock) : Execution :=
  let launcher (attach : Bool) := launcherFor attach invocation.runtime
  match invocation.task with
  | .showHelp => (Reply.mk 0 (help none) "").execution stock
  | .doctor asJson => checkRuntime machine stock invocation.runtime asJson
  | .clients choice asJson =>
    (listClients machine stock choice (launcher false) asJson).execution invocation.verbose
  | .translate choice path toHost =>
    (translatePath machine stock choice path toHost).execution invocation.verbose
  | .command choice id attach asJson =>
    (showCommand machine stock choice (launcher attach) id asJson).execution invocation.verbose
  | .run choice id attach =>
    (runServer machine stock choice (launcher attach) id).execution invocation.verbose

/-- **Carrying out a command line** (`main`). -/
def execute (machine : Machine) (stock : Stock) (arguments : List String) : Execution :=
  match Invocation.parse arguments with
  | .error reply => reply.execution stock
  | .ok invocation => invocation.execute machine stock

end ContainerClients.CommandLine
