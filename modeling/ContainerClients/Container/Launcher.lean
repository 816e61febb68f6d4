import ContainerClients.Container.Counter

/-!
# Launchers

A launcher answers with the command that runs a server for a client.

* `LaunchRequest` — what a launcher is asked.
* `Launcher` — starts a new container (`NewContainerLauncher`), enters a running one
  (`ContainerExecLauncher`), or answers in a way of its own (any other `LaunchFn`).
* `Launcher.launch` — what a launcher answers, and what it changes.

A launcher that starts containers draws its number first, so a number is used up even when the
command cannot be built.  The runtime is looked up at that time too.
-/

namespace ContainerClients.Container

/-- **What a launcher is asked.** -/
structure LaunchRequest where
  /-- the name, or base name, of the container -/
  containerName : Datum
  /-- the mounts -/
  mapping : Mapping
  /-- the image -/
  image : Datum
  /-- the command of the server -/
  command : Datum

/-- **A launcher.** -/
inductive Launcher where
  /-- a new container for every connection, numbered by a counter -/
  | fresh (counter : CounterName) (runtime : Datum)
  /-- a container that is running already -/
  | attach (runtime : Datum)
  /-- an answer of its own, which draws no number -/
  | own (answer : Environment → LaunchRequest → Except Failure Datum)

/-- The launcher of clients that are given none. -/
def Launcher.standard : Launcher := .fresh .shared .null

/-- **What comes of a request.** -/
structure Launched where
  /-- the command, or why there is none -/
  answer : Except Failure Datum
  /-- where the counters stand then -/
  counters : Counters
  /-- what is reported -/
  log : Log := []
  /-- the requests that a launcher answered in a way of its own -/
  calls : List LaunchRequest := []

/-- The answer made of a built command, with the event that reports it. -/
def Launched.ofCommand (built : Except Failure (List Datum × Event)) (counters : Counters) :
    Launched :=
  match built with
  | .ok (argv, event) => { answer := .ok (.list argv), counters, log := [event] }
  | .error failure => { answer := .error failure, counters }

/-- **Asking a launcher.** -/
def Launcher.launch (launcher : Launcher) (env : Environment) (counters : Counters)
    (request : LaunchRequest) : Launched :=
  match launcher with
  | .fresh counter runtime =>
    let (suffix, counters) := counters.draw counter
    let identity : Identity := ⟨request.containerName, suffix⟩
    .ofCommand (do
      let argv ←
        startCommand env identity request.mapping request.image request.command runtime
      return (argv, .launching (← identity.name) (argv.map Datum.shown))) counters
  | .attach runtime =>
    .ofCommand (do
      let argv ← attachCommand env request.containerName request.command runtime
      return (argv, .attaching request.containerName.shown (argv.map Datum.shown))) counters
  | .own answer => { answer := answer env request, counters, calls := [request] }

/-- Asking a launcher several times; the first failure ends it. -/
def Launcher.launchMany (launcher : Launcher) (env : Environment) (counters : Counters)
    (request : LaunchRequest) : Nat → Launched
  | 0 => { answer := .ok (.list []), counters }
  | times + 1 =>
    let first := launcher.launch env counters request
    match first.answer with
    | .error failure => { first with answer := .error failure }
    | .ok answer =>
      let others := launchMany launcher env first.counters request times
      { others with
        answer := others.answer.map fun rest => .list (answer :: (rest.items?.getD []))
        log := first.log ++ others.log
        calls := first.calls ++ others.calls }

end ContainerClients.Container
