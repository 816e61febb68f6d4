import ContainerClients.CommandLine.Execution
import ContainerClients.Package.Library

/-!
# Sessions

A session is a run of operations on one registry.  The registry, the imported modules, the counters,
the environment and the clients that were put aside stay from one step to the next.

* `World` — what stays.
* `Step` — the operations.
* `Answer` — what a step answers with.
* `World.perform`, `World.performAll` — one step, and a run of steps.

A step that fails leaves what it changed before the failure and does not end the session.
-/

namespace ContainerClients

open ContainerClients.Container ContainerClients.CommandLine

/-- **What stays from one step to the next.** -/
structure World where
  /-- the environment and what is installed -/
  around : Surroundings
  /-- what is registered and imported -/
  holdings : Holdings
  /-- where the counters stand -/
  counters : Counters
  /-- clients that were put aside, by the name of their place -/
  slots : List (String × Client)
  /-- how servers are started, in an environment -/
  spawn : Environment → Spawn

/-- A world in which nothing has happened. -/
def World.fresh (around : Surroundings) (spawn : Environment → Spawn) : World :=
  ⟨around, .initial, {}, [], spawn⟩

/-- The registry of a world. -/
def World.registry (world : World) : Registry := world.holdings.registry

/-- A world with another registry. -/
def World.withRegistry (world : World) (registry : Registry) : World :=
  { world with holdings := { world.holdings with registry } }

/-- Which client a step is about. -/
inductive Subject where
  /-- the one that is registered under an id -/
  | registered (id : Datum)
  /-- the one that was put aside -/
  | kept (slot : String)

/-- A launcher, and where the counter that it mentions starts if it is new. -/
structure LauncherChoice where
  /-- the launcher -/
  launcher : Launcher
  /-- where its counter starts -/
  start : Int := 1

/-- Where a configuration comes from. -/
inductive ConfigChoice where
  /-- from the arguments alone -/
  | arguments (arguments : Except Failure CatalogArguments)
  /-- from the arguments and the environment -/
  | environment (arguments : Except Failure CatalogArguments)

/-- **An operation of a session.** -/
inductive Step where
  /-- makes and registers a client of a server on the host -/
  | registerDirect (id command extensions priority : Datum) (slot : Option String)
  /-- makes and registers a container client -/
  | registerContainer (arguments : List (String × Datum)) (choice : LauncherChoice)
    (slot : Option String)
  /-- fills the registry from a configuration -/
  | fill (config : ConfigChoice) (choice : LauncherChoice) (options : LoadOptions)
  /-- loads packages -/
  | load (packages : Datum) (options : LoadOptions)
  /-- loads one package -/
  | loadOne (package : Datum)
  /-- loads entry points -/
  | loadEntryPoints (group : String)
  /-- the packages that the environment names -/
  | environmentPackages
  /-- the client under an id, if there is one -/
  | get (id : Datum)
  /-- a client, which has to be there -/
  | require (subject : Subject)
  /-- whether there is a client under an id -/
  | contains (id : Datum)
  /-- the ids in order -/
  | ids
  /-- the clients that a file activates -/
  | clientsFor (path : Datum)
  /-- the command of a client's server -/
  | connect (subject : Subject)
  /-- a path as the server knows it -/
  | toUri (subject : Subject) (path : Datum)
  /-- a URI of the server as a path -/
  | toPath (subject : Subject) (uri : Datum)
  /-- whether a file activates a client -/
  | isActivated (subject : Subject) (path : Datum)
  /-- whether a client handles a file -/
  | handles (subject : Subject) (path : Datum)
  /-- the next identity of a counter -/
  | nextIdentity (base : Datum) (counter : CounterName) (start : Int)
  /-- many identities of a counter -/
  | nextMany (counter : CounterName) (start : Int) (count : Nat)
  /-- asks a launcher a number of times -/
  | launch (choice : LauncherChoice) (request : LaunchRequest) (times : Nat)
  /-- changes variables of the environment -/
  | setEnvironment (changes : List (Variable × Option String))
  /-- empties the registry -/
  | reset
  /-- carries out a command line -/
  | invoke (arguments : List String) (probe : Probe) (input : List UInt8)

/-- **What a step answers with.** -/
inductive Answer where
  /-- nothing -/
  | none
  /-- a client -/
  | client (client : Client)
  /-- the report of filling the registry -/
  | report (report : Report)
  /-- the outcome of each package -/
  | outcomes (outcomes : Outcomes)
  /-- yes or no -/
  | flag (b : Bool)
  /-- texts -/
  | texts (texts : List String)
  /-- ids -/
  | ids (ids : List ClientId)
  /-- a text -/
  | text (text : String)
  /-- an identity, with the name of its container -/
  | identity (identity : Identity) (name : String)
  /-- numbers that were drawn -/
  | numbers (numbers : List Int)
  /-- a value -/
  | value (d : Datum)
  /-- what came of a command line -/
  | execution (execution : Execution)

/-- **What comes of a step.** -/
structure StepResult where
  /-- what stays -/
  world : World
  /-- the answer, or why there is none -/
  answer : Except Failure Answer
  /-- what is reported -/
  log : Log := []
  /-- the requests that a launcher answered in a way of its own -/
  calls : List LaunchRequest := []

namespace World

/-- Puts a client aside. -/
def keep (world : World) (slot : Option String) (client : Client) : World :=
  match slot with
  | some slot =>
    { world with slots := (slot, client) :: world.slots.filter (·.1 != slot) }
  | none => world

/-- Putting a client aside leaves the counters where they are, and what is registered. -/
@[simp] theorem counters_keep (world : World) (slot : Option String) (client : Client) :
    (world.keep slot client).counters = world.counters := by
  cases slot <;> rfl

@[simp] theorem registry_keep (world : World) (slot : Option String) (client : Client) :
    (world.keep slot client).registry = world.registry := by
  cases slot <;> rfl

/-- The client that a step is about. -/
def find (world : World) : Subject → Except Failure Client
  | .registered id => world.registry.requireNamed id
  | .kept slot =>
    match world.slots.find? (·.1 == slot) with
    | some (_, client) => .ok client
    | none => .error (.unknownServerId (.text slot) [])

/-- A world in which a counter is mentioned. -/
def mention (world : World) (counter : CounterName) (start : Int) : World :=
  { world with counters := world.counters.mention counter start }

/-- A world in which the counter of a launcher is mentioned. -/
def choose (world : World) (choice : LauncherChoice) : World :=
  match choice.launcher with
  | .fresh counter _ => world.mention counter choice.start
  | _ => world

/-- An answer that changes nothing. -/
def answering (world : World) (answer : Except Failure Answer) : StepResult :=
  { world, answer }

/-- An answer about a client. -/
def about (world : World) (subject : Subject) (answer : Client → Except Failure Answer) :
    StepResult :=
  world.answering ((world.find subject).bind answer)

/-- Registers a client of a server on the host. -/
def registerDirect (world : World) (slot : Option String) : Except Failure Client → StepResult
  | .error failure => world.answering (.error failure)
  | .ok client =>
    { world := (world.withRegistry (world.registry.register client)).keep slot client
      answer := .ok (.client client)
      log := world.registry.registrationLog client }

/-- Registers a container client. -/
def registerContainer (world : World) (slot : Option String) (launcher : Launcher)
    (arguments : List (String × Datum)) : StepResult :=
  match (Binding.ofArguments arguments launcher).bind (·.register world.registry) with
  | .error failure => world.answering (.error failure)
  | .ok registration =>
    { world := (world.withRegistry registration.registry).keep slot registration.client
      answer := .ok (.client registration.client)
      log := registration.log }

/-- The configuration of a choice, and what is reported. -/
def config (world : World) : ConfigChoice → Except Failure CatalogConfig × Log
  | .arguments arguments => (arguments.bind CatalogConfig.ofArguments, [])
  | .environment (.ok arguments) => CatalogConfig.ofEnvironment world.around.env arguments
  | .environment (.error failure) => (.error failure, [])

/-- Fills the registry. -/
def fill (world : World) (choice : ConfigChoice) (launcher : LauncherChoice)
    (options : LoadOptions) : StepResult :=
  match world.config choice with
  | (.error failure, log) => { world, answer := .error failure, log }
  | (.ok config, log) =>
    let world := world.choose launcher
    let (progress, failure?) :=
      Catalog.fill world.around options launcher.launcher config world.holdings
    { world := { world with holdings := progress.holdings }
      answer := match failure? with
        | some failure => .error failure
        | none => .ok (.report progress.report)
      log := log ++ progress.log }

/-- Takes over what loading comes to. -/
def loaded {α : Type} (world : World) (result : Loaded α) (answer : α → Answer) : StepResult :=
  { world := { world with holdings := result.holdings }
    answer := result.outcome.map answer
    log := result.log }

/-- Loads the packages that are the parts of a value. -/
def load (world : World) (packages : Datum) (options : LoadOptions) : StepResult :=
  match packages.needParts with
  | .error failure => world.answering (.error failure)
  | .ok packages =>
    world.loaded (Catalog.loadNamed world.around options world.holdings packages) .outcomes

/-- Loads one package, which has to be named by a text. -/
def loadOne (world : World) : Datum → StepResult
  | .text package =>
    world.loaded (loadPackage world.around.installed world.holdings package) .flag
  | _ => world.answering (.error .mistyped)

/-- Connects a client. -/
def connect (world : World) (client : Client) : StepResult :=
  let connected := client.connect world.around.env world.counters
  { world := { world with counters := connected.counters }
    answer := connected.argv.map .texts
    log := connected.log
    calls := connected.calls }

/-- Takes the next identity of a counter. -/
def nextIdentity (world : World) (base : Datum) (counter : CounterName) : StepResult :=
  let (suffix, counters) := world.counters.draw counter
  let identity : Identity := ⟨base, suffix⟩
  { world := { world with counters }, answer := identity.name.map (.identity identity) }

/-- Takes many numbers of a counter. -/
def nextMany (world : World) (counter : CounterName) (count : Nat) : StepResult :=
  let (numbers, counters) := world.counters.drawMany counter count
  { world := { world with counters }, answer := .ok (.numbers numbers) }

/-- Asks a launcher a number of times. -/
def launch (world : World) (launcher : Launcher) (request : LaunchRequest) (times : Nat) :
    StepResult :=
  let launched := launcher.launchMany world.around.env world.counters request times
  { world := { world with counters := launched.counters }
    answer := launched.answer.map .value
    log := launched.log
    calls := launched.calls }

/-- Changes variables of the environment. -/
def setEnvironment (world : World) (changes : List (Variable × Option String)) : World :=
  { world with around := { world.around with
      env := changes.foldl (fun env change => env.set change.1 change.2) world.around.env } }

/-- What a command line finds in a world. -/
def machine (world : World) (probe : Probe) (input : List UInt8) : Machine :=
  ⟨world.around, probe, world.spawn world.around.env, input⟩

/-- Carries out a command line. -/
def invoke (world : World) (arguments : List String) (probe : Probe) (input : List UInt8) :
    StepResult :=
  let execution :=
    CommandLine.execute (world.machine probe input) ⟨world.holdings, world.counters⟩ arguments
  { world := { world with
      holdings := execution.stock.holdings, counters := execution.stock.counters }
    answer := .ok (.execution execution)
    calls := execution.calls }

/-- The client under an id that may turn out to be none. -/
def get? (world : World) (id : Datum) : Except Failure (Option Client) :=
  id.needId.map world.registry.get?

/-- An answer about a client and a text. -/
def aboutText (world : World) (subject : Subject) (text : Datum)
    (answer : Client → String → Except Failure Answer) : StepResult :=
  world.about subject fun client => text.needText.bind (answer client)

/-- The ids of the clients that a file activates.  Only a registry with clients looks at the
path. -/
def clientsFor (world : World) (path : Datum) : Except Failure (List ClientId) := do
  if world.registry.places.isEmpty then return []
  let clients ← world.registry.clientsFor (← path.needText)
  return clients.map (·.id)

/-- **One step.** -/
def perform (world : World) : Step → StepResult
  | .registerDirect id command extensions priority slot =>
    world.registerDirect slot (Client.directNamed id command extensions priority)
  | .registerContainer arguments choice slot =>
    (world.choose choice).registerContainer slot choice.launcher arguments
  | .fill config choice options => world.fill config choice options
  | .load packages options => world.load packages options
  | .loadOne package => world.loadOne package
  | .loadEntryPoints group =>
    world.loaded (ContainerClients.loadEntryPoints world.around.installed world.holdings group)
      .outcomes
  | .environmentPackages => world.answering (.ok (.texts world.around.env.packages))
  | .get id =>
    world.answering ((world.get? id).map fun client? => (client?.map Answer.client).getD .none)
  | .require subject => world.about subject fun client => .ok (.client client)
  | .contains id => world.answering ((world.get? id).map fun client? => .flag client?.isSome)
  | .ids => world.answering (world.registry.ids.map .ids)
  | .clientsFor path => world.answering ((world.clientsFor path).map .ids)
  | .connect subject =>
    match world.find subject with
    | .ok client => world.connect client
    | .error failure => world.answering (.error failure)
  | .toUri subject path =>
    world.aboutText subject path fun client path => (client.toUri path).map .text
  | .toPath subject uri =>
    world.aboutText subject uri fun client uri => (client.toPath uri).map .text
  | .isActivated subject path =>
    world.aboutText subject path fun client path => (client.isActivated path).map .flag
  | .handles subject path =>
    world.aboutText subject path fun client path => .ok (.flag (client.handles path))
  | .nextIdentity base counter start => (world.mention counter start).nextIdentity base counter
  | .nextMany counter start count => (world.mention counter start).nextMany counter count
  | .launch choice request times => (world.choose choice).launch choice.launcher request times
  | .setEnvironment changes => (world.setEnvironment changes).answering (.ok .none)
  | .reset => (world.withRegistry .empty).answering (.ok .none)
  | .invoke arguments probe input => world.invoke arguments probe input

/-- **A run of steps**: what comes of each, and what stays in the end. -/
def performAll (world : World) : List Step → List StepResult × World
  | [] => ([], world)
  | step :: rest =>
    let result := world.perform step
    let (results, last) := result.world.performAll rest
    (result :: results, last)

end World

end ContainerClients
