import ContainerClients.Datum.Rank
import ContainerClients.Failure
import ContainerClients.Text.Occurrence

/-!
# Server specifications

A specification asks for one container client: which client it is made from, its own id, the
command of the server, and where it departs from the defaults of the catalog.

* `ServerSpec` — a specification.
* `ServerSpec.ofArguments` — from named arguments, taken as they are.
* `ServerSpec.ofRecord` — from a record of a configuration file, with ids as text.  Each field may
  be spelled in `snake_case` or `camelCase`; the former goes first when both are there, whatever it
  holds.
* `ServerSpec.ofDatum` — from any value of a configuration file.
* `ServerSpec.toDatum` — the specification as a record of arguments.
-/

namespace ContainerClients

/-- **A server specification.** -/
structure ServerSpec where
  /-- the id of the client that the container client is made from -/
  sourceId : Datum
  /-- the id of the container client -/
  id : Datum
  /-- the command of the server -/
  command : Datum
  /-- an image other than the default -/
  image : Datum := .null
  /-- a container name other than the default -/
  containerName : Datum := .null
  /-- a priority other than the default -/
  priority : Datum := .null

/-- **The whole number that a value denotes.**  A text is read, a fraction is cut off, and a truth
value is 0 or 1. -/
def Datum.integer : Datum → Except Failure Int
  | .flag b => .ok (if b then 1 else 0)
  | .whole i => .ok i
  | .real x =>
    match x.truncated? with
    | some i => .ok i
    | none => .error .infiniteNumber
  | .text s =>
    match Number.readInteger s.toList with
    | .ok i => .ok i
    | .error fault => .error (.invalidValue (.integer s fault))
  | _ => .error .mistyped

namespace ServerSpec

/-- The names of the arguments. -/
def argumentNames : List String :=
  ["server_id", "docker_server_id", "server_command", "docker_image_id", "docker_container_name",
   "priority"]

/-- **A specification of named arguments**, taken as they are.  The first three are required, and
there are no others than the six. -/
def ofArguments (arguments : List (String × Datum)) : Except Failure ServerSpec :=
  let known := arguments.all fun argument => argumentNames.contains argument.1
  match known, Datum.field? "server_id" arguments, Datum.field? "docker_server_id" arguments,
      Datum.field? "server_command" arguments with
  | true, some sourceId, some id, some command =>
    .ok {
      sourceId
      id
      command
      image := (Datum.field? "docker_image_id" arguments).getD .null
      containerName := (Datum.field? "docker_container_name" arguments).getD .null
      priority := (Datum.field? "priority" arguments).getD .null }
  | _, _, _, _ => .error .mistyped

/-- The first of two fields that is there. -/
def pick (snake camel : String) (fields : List (String × Datum)) : Datum :=
  ((Datum.field? snake fields).or (Datum.field? camel fields)).getD .null

/-- A command as a text or a list. -/
def commandOf : Datum → Except Failure Datum
  | .text s => .ok (.text s)
  | d =>
    match d.items? with
    | some items => .ok (.list items)
    | none => .error .mistyped

/-- A priority as a whole number; nothing stays nothing. -/
def priorityOf : Datum → Except Failure Datum
  | .null => .ok .null
  | d => d.integer.map .whole

/-- What a specification without ids is called. -/
def unnamed : Datum := .text "<unnamed>"

/-- The names of the fields that a record needs, in either spelling. -/
def requiredNames : List String :=
  ["server_id", "serverId", "docker_server_id", "dockerServerId", "server_command",
   "serverCommand"]

/-- **The specification that a record describes.** -/
def ofRecord (fields : List (String × Datum)) : Except Failure ServerSpec := do
  let sourceId := pick "server_id" "serverId" fields
  let id := pick "docker_server_id" "dockerServerId" fields
  let command := pick "server_command" "serverCommand" fields
  if !sourceId.isTruthy || !id.isTruthy || !command.isTruthy then
    throw (.invalidServerSpec (.text (sourceId.orElse (id.orElse unnamed)).shown) .incomplete)
  let command ← commandOf command
  let priority ← priorityOf ((Datum.field? "priority" fields).getD .null)
  return {
    sourceId := .text sourceId.shown
    id := .text id.shown
    command
    image := pick "docker_image_id" "dockerImageId" fields
    containerName := pick "docker_container_name" "dockerContainerName" fields
    priority }

/-- Whether a value that is no record speaks of a field that a record needs; `none` for a value that
cannot speak of anything. -/
def mentionsField? : Datum → Option Bool
  | .list items => some (requiredNames.any fun name => items.any (·.same (.text name)))
  | .text s => some (requiredNames.any fun name => Text.occursIn name.toList s.toList)
  | _ => none

/-- **The specification that a value describes** (`from_mapping`).  A value that is no record has no
fields, and so describes an unnamed specification that is incomplete; but it must not speak of the
fields. -/
def ofDatum : Datum → Except Failure ServerSpec
  | .record fields => ofRecord fields
  | d =>
    match mentionsField? d with
    | some false => .error (.invalidServerSpec unnamed .incomplete)
    | _ => .error .mistyped

/-- The specification as a record of arguments. -/
def toDatum (spec : ServerSpec) : Datum :=
  .record [("server_id", spec.sourceId), ("docker_server_id", spec.id),
    ("server_command", spec.command), ("docker_image_id", spec.image),
    ("docker_container_name", spec.containerName), ("priority", spec.priority)]

/-- A specification that keeps to the defaults of the catalog. -/
def plain (sourceId id command : String) : ServerSpec where
  sourceId := .text sourceId
  id := .text id
  command := .text command

/-- **The specifications of a catalog that is given none.** -/
def defaults : List ServerSpec :=
  [plain "bash-ls" "bashls-docker" "bash-language-server start",
   plain "clangd" "clangd-docker" "clangd",
   plain "css-ls" "cssls-docker" "css-languageserver --stdio",
   plain "dockerfile-ls" "dockerfilels-docker" "docker-langserver --stdio",
   plain "gopls" "gopls-docker" "gopls",
   plain "html-ls" "htmls-docker" "html-languageserver --stdio",
   plain "pyls" "pyls-docker" "pyls",
   plain "ts-ls" "tsls-docker" "typescript-language-server --stdio"]

end ServerSpec

end ContainerClients
