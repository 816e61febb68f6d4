import ContainerClients.Registry

/-!
# Container clients

A container client is made from a client that is registered, and is registered itself under an id
of its own.

* `Binding` — what makes a container client out of another client.
* `Binding.ofArguments` — the binding of named arguments.
* `Binding.client` — the container client, or why there is none.
* `Binding.register` — the registry with the container client.

Everything that can fail comes before the one change of the registry.
-/

namespace ContainerClients

open ContainerClients.Container

/-- **What makes a container client** out of another client (`DockerClientBinding`). -/
structure Binding where
  /-- the id of the client that it is made from -/
  sourceId : Datum
  /-- its own id -/
  id : Datum
  /-- the command of the server in the container -/
  command : Datum
  /-- the mounts -/
  mounts : Datum
  /-- the name, or base name, of the container -/
  containerName : Datum
  /-- the image -/
  image : Datum
  /-- the priority -/
  priority : Datum
  /-- what starts the server -/
  launcher : Launcher

namespace Binding

/-- The names of the arguments. -/
def argumentNames : List String :=
  ["server_id", "docker_server_id", "server_command", "path_mappings", "container_name", "image_id",
   "priority"]

/-- **The binding of named arguments**, all of which are required. -/
def ofArguments (arguments : List (String × Datum)) (launcher : Launcher) :
    Except Failure Binding :=
  let given (name : String) : Except Failure Datum :=
    match Datum.field? name arguments with
    | some d => .ok d
    | none => .error .mistyped
  if !arguments.all fun argument => argumentNames.contains argument.1 then .error .mistyped
  else do
    return {
      sourceId := ← given "server_id"
      id := ← given "docker_server_id"
      command := ← given "server_command"
      mounts := ← given "path_mappings"
      containerName := ← given "container_name"
      image := ← given "image_id"
      priority := ← given "priority"
      launcher := launcher }

/-- **What the container client of a binding is made with**: the command is cut, the mounts are
read, and the id has to be one.  The registry has no part in it. -/
def derivation (binding : Binding) : Except Failure Derivation := do
  let command ← Command.words binding.command
  let mapping ← Mapping.ofDatum binding.mounts
  let id ← binding.id.needId
  return {
    id
    command
    priority := binding.priority
    mapping
    containerName := binding.containerName
    image := binding.image
    launcher := binding.launcher }

/-- **The container client of a binding** (`derive_docker_client`). -/
def client (binding : Binding) (registry : Registry) : Except Failure Client := do
  if binding.id.same binding.sourceId then
    throw (.invalidServerSpec binding.sourceId .sameId)
  let source ← registry.requireNamed binding.sourceId
  return source.inContainer (← binding.derivation)

/-- What is reported when the container client is registered. -/
def log (binding : Binding) (registry : Registry) (client : Client) : Log :=
  registry.registrationLog client
    ++ [.registered binding.id.shown binding.sourceId.shown binding.containerName.shown
      binding.image.shown]

/-- **A registration**: the client, the registry that holds it, and what is reported. -/
structure Registration where
  /-- the client -/
  client : Client
  /-- the registry -/
  registry : Registry
  /-- what is reported -/
  log : Log

/-- **Registering the container client of a binding** (`register_docker_client`). -/
def register (binding : Binding) (registry : Registry) : Except Failure Registration :=
  (binding.client registry).map fun client =>
    ⟨client, registry.register client, binding.log registry client⟩

end Binding

end ContainerClients
