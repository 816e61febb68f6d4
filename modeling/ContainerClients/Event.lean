import ContainerClients.Command

/-!
# Log events

What the library reports while it works.  Each event has a level, the part of the library that
reports it, and a wording.

* `Event` — the events.
* `Event.level`, `Event.origin`, `Event.message` — how one is shown.
-/

namespace ContainerClients

/-- The weight of an event. -/
inductive Level where
  /-- of interest when something is looked into -/
  | debug
  /-- something was left out or ignored -/
  | warning
deriving DecidableEq, Repr

/-- The name of a level. -/
def Level.name : Level → String
  | .debug => "DEBUG"
  | .warning => "WARNING"

/-- **What the library reports.** -/
inductive Event where
  /-- a new container is about to be started -/
  | launching (container : String) (argv : List String)
  /-- a running container is about to be entered -/
  | attaching (container : String) (argv : List String)
  /-- a client takes the place of another -/
  | replacing (id : String)
  /-- a container client is registered -/
  | registered (id sourceId container image : String)
  /-- a specification yields no client -/
  | skipping (id : String) (failure : Failure)
  /-- the priority in the environment is no number -/
  | priorityIgnored (text : String)
  /-- a client package cannot be imported -/
  | importFailed (package reason : String)
  /-- a source of clients has none -/
  | withoutClients (source : String)
  /-- what a source gives as its clients is no collection -/
  | notACollection (source : String)
  /-- a source gives other things beside clients -/
  | foreignItems (source : String) (count : Nat)
  /-- the clients of a package are registered -/
  | packageLoaded (package : String) (count : Nat)
  /-- the entry points cannot be listed -/
  | entryPointsUnreadable (group reason : String)
  /-- an entry point cannot be loaded -/
  | entryPointFailed (name reason : String)

namespace Event

/-- The level of an event. -/
def level : Event → Level
  | .launching .. | .attaching .. | .replacing _ | .registered .. | .packageLoaded .. => .debug
  | _ => .warning

/-- The part of the library that reports an event. -/
def origin : Event → String
  | .launching .. | .attaching .. => "lsp_docker.containers"
  | .replacing _ => "lsp_docker.clients.registry"
  | .registered .. => "lsp_docker.adapter"
  | .skipping .. | .priorityIgnored _ => "lsp_docker.catalog"
  | _ => "lsp_docker.clients.plugin_loader"

/-- A number in a message. -/
def countText (n : Nat) : String := Number.text (n : Int)

/-- **The wording of an event.** -/
def message : Event → String
  | .launching container argv =>
    "Launching container " ++ container ++ ": " ++ Command.display argv
  | .attaching container argv =>
    "Attaching to container " ++ container ++ ": " ++ Command.display argv
  | .replacing id => "Replacing client registration '" ++ id ++ "'"
  | .registered id sourceId container image =>
    "Registered '" ++ id ++ "' (from '" ++ sourceId ++ "') in container '" ++ container
      ++ "' using image '" ++ image ++ "'"
  | .skipping id failure => "Skipping container client '" ++ id ++ "': " ++ failure.message
  | .priorityIgnored text =>
    "Ignoring non-integer " ++ Variable.priority.name ++ "=" ++ Text.literal text
  | .importFailed package reason =>
    "Failed to load client package '" ++ package ++ "': " ++ reason
  | .withoutClients source =>
    "Client package '" ++ source ++ "' does not define CLIENTS; skipping"
  | .notACollection source => "CLIENTS in '" ++ source ++ "' is not iterable; skipping"
  | .foreignItems source count =>
    "Client package '" ++ source ++ "' exposes " ++ countText count
      ++ " non-descriptor item(s); ignoring them"
  | .packageLoaded package count =>
    "Loaded " ++ countText count ++ " client(s) from '" ++ package ++ "'"
  | .entryPointsUnreadable group reason =>
    "Failed reading entry points for '" ++ group ++ "': " ++ reason
  | .entryPointFailed name reason =>
    "Failed loading client entry point '" ++ name ++ "': " ++ reason

end Event

/-- **What was reported**, in order. -/
abbrev Log := List Event

/-- The events of a level or above. -/
def Log.atLeast (level : Level) (log : Log) : Log :=
  log.filter fun event => level = .debug || event.level = .warning

end ContainerClients
