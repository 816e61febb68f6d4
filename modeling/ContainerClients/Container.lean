import ContainerClients.Event
import ContainerClients.Mount

/-!
# Containers and the commands that start a server in them

A server runs in a container that is started for it and removed when it ends, or in one that is
running already.  Either way the runtime is given a list of words, never a text to be cut.  The
image and the name of a running container stand in it as they were given.

* `Container.Identity` — a base name and a number, which make the name of a new container.
* `Container.volumeFlags` — one `-v HOST:CONTAINER` a mount.
* `Container.startCommand` — the words that start a new container.
* `Container.attachCommand` — the words that enter a running one.
-/

namespace ContainerClients.Container

/-- **The identity of a new container** (`ContainerIdentity`). -/
structure Identity where
  /-- what the containers of a client have in common -/
  base : Datum
  /-- what tells them apart -/
  suffix : Int

/-- **The name of a container**, unless its number has too many digits. -/
def Identity.name (identity : Identity) : Except Failure String :=
  match Number.text? identity.suffix with
  | some number => .ok (identity.base.shown ++ "-" ++ number)
  | none => .error (.invalidValue .longNumber)

/-- **The flags of the mounts** (`volume_flags`), in their order. -/
def volumeFlags (mapping : Mapping) : List String :=
  mapping.flatMap fun mount => ["-v", mount.host ++ ":" ++ mount.container]

/-- **Starting a new container** (`build_launch`) that removes itself, with a server in it. -/
def startCommand (env : Environment) (identity : Identity) (mapping : Mapping)
    (image command runtime : Datum) : Except Failure (List Datum) := do
  let runtime ← Command.runtime env runtime
  let name ← identity.name
  let command ← Command.words command
  return (runtime ++ ["run", "--name", name, "--rm", "-i"] ++ volumeFlags mapping).map .text
    ++ image :: command.map .text

/-- **Entering a running container** (`build_exec`). -/
def attachCommand (env : Environment) (container command runtime : Datum) :
    Except Failure (List Datum) := do
  let runtime ← Command.runtime env runtime
  let command ← Command.words command
  return (runtime ++ ["exec", "-i"]).map .text ++ container :: command.map .text

end ContainerClients.Container
