import ContainerClients.Client.Id
import ContainerClients.Container.Launcher

/-!
# Clients of language servers

A client (`ClientDescriptor`) says which files a language server is for and how it is reached: what
a file has to pass, how the server and the host name files, and how a connection to the server is
started.  All of this can be of any kind.  A client of a server on the host uses the defaults.  A
container client is a copy of another client that runs its server behind mounts, and speaks of files
by where they are in the container.

* `Connection` — how a server is started; `Connection.connect`, what comes of it.
* `Client` — a client.
* `Client.direct` — a client of a server on the host (`native_client`).
* `Derivation`, `Client.inContainer` — the container client made from another client
  (`DockerClientBinding` with a launcher, `derive_docker_client`).
* `handles`, `isActivated` — which files a client is for (`handles_extension`, `is_activated`).
-/

namespace ContainerClients

open ContainerClients.Text ContainerClients.Container

/-! ## Connections -/

/-- **How a server is started** (`new_connection`). -/
inductive Connection where
  /-- by words of its own -/
  | own (words : Environment → Except Failure (List String))
  /-- by a command of its own, which is cut into words -/
  | command (ask : Environment → Except Failure Datum)
  /-- by the command that a launcher answers with, which is cut into words -/
  | launched (launcher : Launcher) (request : LaunchRequest)

/-- **What comes of connecting.** -/
structure Connected where
  /-- the words that start the server, or why there are none -/
  argv : Except Failure (List String)
  /-- where the counters stand then -/
  counters : Counters
  /-- what is reported -/
  log : Log := []
  /-- the requests that a launcher answered in a way of its own -/
  calls : List LaunchRequest := []

/-- **Connecting by a command** (`stdio_connection`): what is asked for is cut into words. -/
def Connected.ofLaunched (launched : Launched) : Connected where
  argv := launched.answer.bind Command.words
  counters := launched.counters
  log := launched.log
  calls := launched.calls

namespace Connection

/-- The command that is asked for, unless there are only words. -/
def launch? (connection : Connection) (env : Environment) (counters : Counters) :
    Option Launched :=
  match connection with
  | .own _ => none
  | .command ask => some { answer := ask env, counters }
  | .launched launcher request => some (launcher.launch env counters request)

/-- **Connecting.** -/
def connect (connection : Connection) (env : Environment) (counters : Counters) : Connected :=
  match connection with
  | .own words => { argv := words env, counters }
  | .command ask => .ofLaunched { answer := ask env, counters }
  | .launched launcher request => .ofLaunched (launcher.launch env counters request)

/-- A command that is asked for is cut into words. -/
theorem connect_of_launch? {connection : Connection} {env : Environment} {counters : Counters}
    {launched : Launched} (h : connection.launch? env counters = some launched) :
    connection.connect env counters = .ofLaunched launched := by
  cases connection with
  | own words => contradiction
  | command ask => exact congrArg Connected.ofLaunched (Option.some.inj h)
  | launched launcher request => exact congrArg Connected.ofLaunched (Option.some.inj h)

end Connection

/-! ## Clients -/

/-- **A client of a language server.** -/
structure Client where
  /-- the id that it is registered under -/
  id : ClientId
  /-- the suffixes and file names that it is for, in lower case -/
  extensions : List String
  /-- the words of the server's command -/
  command : List String
  /-- its priority -/
  priority : Datum
  /-- what a file that it handles has to pass, if anything -/
  activation : Option (String → Except Failure Bool)
  /-- the URI by which the server knows a path -/
  toUri : String → Except Failure String
  /-- the path that a server's URI denotes -/
  toPath : String → Except Failure String
  /-- how its server is started -/
  connection : Connection

/-- **What a container client is made with**: everything that is its own, and its launcher. -/
structure Derivation where
  /-- its id -/
  id : ClientId
  /-- the words of the server's command in the container -/
  command : List String
  /-- its priority -/
  priority : Datum
  /-- the mounts of the container -/
  mapping : Mapping
  /-- the name, or base name, of the container -/
  containerName : Datum
  /-- the image -/
  image : Datum
  /-- what starts the server -/
  launcher : Launcher

/-- What the launcher is asked. -/
def Derivation.request (own : Derivation) : LaunchRequest where
  containerName := own.containerName
  mapping := own.mapping
  image := own.image
  command := .ofTexts own.command

/-- Texts in order, each once. -/
def sortedTexts (texts : List String) : List String :=
  (texts.mergeSort fun a b => decide (a ≤ b)).eraseDups

namespace Client

/-! ## Making clients -/

/-- One file extension, in lower case. -/
def extensionOf : Datum → Except Failure String
  | .text s => .ok (lowered s)
  | _ => .error .mistypedPart

/-- The priority of direct clients that are given none. -/
def directPriority : Datum := .whole (-1)

/-- A client of a server on the host, by the words of its command. -/
def onHost (id : ClientId) (extensions command : List String) (priority : Datum) : Client where
  id
  extensions
  command
  priority
  activation := none
  toUri path := .ok (Mapping.uriOfPath path)
  toPath := Mapping.pathOfUri
  connection := .command fun _ => .ok (.ofTexts command)

/-- **A client of a server on the host** (`native_client`). -/
def direct (id : ClientId) (command extensions priority : Datum) : Except Failure Client := do
  let command ← Command.words command
  let items ← extensions.needParts
  let extensions ← items.mapM extensionOf
  return onHost id extensions command priority

/-- **A client of a server on the host**, by an id that may turn out to be none. -/
def directNamed (id command extensions priority : Datum) : Except Failure Client := do
  let client ← direct .nothing command extensions priority
  return { client with id := ← id.needId }

/-- **The container client made from a client** (`derive_docker_client`): a copy in which all that a
derivation tells is replaced.  It is activated by the files that its mounts cover. -/
def inContainer (source : Client) (own : Derivation) : Client :=
  { source with
    id := own.id
    command := own.command
    priority := own.priority
    activation := some fun path => .ok (own.mapping.covers path)
    toUri := own.mapping.toContainerUri
    toPath := own.mapping.toHostPath own.containerName.shown
    connection := .launched own.launcher own.request }

/-! ## Which files a client is for -/

/-- **A client handles a file** (`handles_extension`) by its suffix or by its whole name, whatever
their case. -/
def handles (client : Client) (path : String) : Bool :=
  let file := FilePath.ofText path.toList
  client.extensions.contains (String.ofList (lower file.suffix))
    || client.extensions.contains (String.ofList (lower file.name))

/-- **A client is activated** (`is_activated`) by a file that it handles and that passes.  What a
file has to pass is asked only then, and may fail. -/
def isActivated (client : Client) (path : String) : Except Failure Bool :=
  if client.handles path then
    match client.activation with
    | none => .ok true
    | some passes => passes path
  else .ok false

/-- Whether a client is activated by less than it handles. -/
def isRestricted (client : Client) : Bool := client.activation.isSome

/-- The file extensions in order, each once. -/
def sortedExtensions (client : Client) : List String := sortedTexts client.extensions

/-! ## Connecting -/

/-- **What comes of connecting a client.** -/
def connect (client : Client) (env : Environment) (counters : Counters) : Connected :=
  client.connection.connect env counters

end Client

end ContainerClients
