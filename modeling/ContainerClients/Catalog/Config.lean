import ContainerClients.Catalog.ServerSpec
import ContainerClients.Mount
import ContainerClients.Package.Bundled

/-!
# The configuration of a catalog

A catalog is configured by its mounts, by defaults for what specifications leave open, by client
packages and by specifications.

* `CatalogArguments` — what is given, by name.
* `CatalogConfig` — a configuration; it has at least one mount.
* `CatalogConfig.ofArguments` — from the arguments alone.
* `CatalogConfig.ofEnvironment` — from the arguments, and where they are silent, from the
  environment.
-/

namespace ContainerClients

/-- The specifications that are given. -/
inductive SpecsArgument where
  /-- specifications -/
  | specs (specs : List ServerSpec)
  /-- any other value -/
  | other (d : Datum)

/-- **What is given**, by name; the specifications apart. -/
structure CatalogArguments where
  /-- the named values -/
  values : List (String × Datum)
  /-- the specifications, if any are given -/
  specs : Option SpecsArgument

/-- **The configuration of a catalog.** -/
structure CatalogConfig where
  /-- the mounts -/
  mapping : Mapping
  /-- the image of specifications that name none -/
  image : Datum
  /-- the container name of specifications that name none -/
  containerName : Datum
  /-- the priority of specifications that name none -/
  priority : Datum
  /-- the client packages -/
  packages : List Datum
  /-- the specifications, or why what was given is none -/
  specs : Except Failure (List ServerSpec)
  /-- there is a mount -/
  mapping_ne_nil : mapping ≠ []

namespace CatalogConfig

/-- The default image. -/
def defaultImage : Datum := .text "emacslsp/lsp-docker-langservers"

/-- The default container name. -/
def defaultContainerName : Datum := .text "lsp-container"

/-- The default priority. -/
def defaultPriority : Datum := .whole 10

/-- The names of the arguments. -/
def argumentNames : List String :=
  ["path_mappings", "docker_image_id", "docker_container_name", "priority", "client_packages"]

/-- The specifications of an argument.  A value that has parts, but other parts than
specifications, is at fault only when they are used. -/
def specsOf : Option SpecsArgument → Except Failure (Except Failure (List ServerSpec))
  | none => .ok (.ok ServerSpec.defaults)
  | some (.specs specs) => .ok (.ok specs)
  | some (.other d) =>
    match d.items? with
    | some [] => .ok (.ok [])
    | some _ => .ok (.error .mistypedPart)
    | none => .error .mistyped

/-- **A configuration of the arguments alone** (`CatalogConfig`).  The mounts are required. -/
def ofArguments (arguments : CatalogArguments) : Except Failure CatalogConfig := do
  let given (name : String) := Datum.field? name arguments.values
  if !arguments.values.all fun argument => argumentNames.contains argument.1 then
    throw .mistyped
  match given "path_mappings" with
  | none => throw .mistyped
  | some mounts =>
    let mapping ← Mapping.ofDatum mounts
    let packages ← ((given "client_packages").getD (.ofTexts bundledNames)).needParts
    let specs ← specsOf arguments.specs
    if h : mapping = [] then throw (.invalidValue .noMounts)
    else
      return {
        mapping
        image := (given "docker_image_id").getD defaultImage
        containerName := (given "docker_container_name").getD defaultContainerName
        priority := (given "priority").getD defaultPriority
        packages
        specs
        mapping_ne_nil := h }

/-! ## The environment -/

/-- The mounts: those that are given if there are any, else those of the environment. -/
def mountsFrom (env : Environment) (given : Datum) : Except Failure Mapping := do
  let mapping ← Mapping.ofDatum given
  if mapping.isEmpty then Mapping.ofDatum (.ofTexts (env.items .mounts)) else return mapping

/-- A value that is given and not empty, else the variable of the environment if it is not blank. -/
def valueFrom (env : Environment) (v : Variable) (given : Datum) : Option Datum :=
  if given.isTruthy then some given
  else
    let text := env.strippedText v
    if text.isEmpty then none else some (.text text)

/-- The priority of the environment (`_env_int`).  A text that is no whole number is reported and
ignored. -/
def environmentPriority (env : Environment) : Option Datum × Log :=
  let text := env.strippedText .priority
  if text.isEmpty then (none, [])
  else match Number.readInteger text.toList with
    | .ok i => (some (.whole i), [])
    | .error _ => (none, [.priorityIgnored text])

/-- A priority that is given, else that of the environment. -/
def priorityFrom (env : Environment) : Datum → Option Datum × Log
  | .null => environmentPriority env
  | given => (some given, [])

/-- An argument, if it has a value. -/
def argument (name : String) (value : Option Datum) : List (String × Datum) :=
  (value.map fun d => (name, d)).toList

/-- The names of the arguments that the environment fills in. -/
def filledNames : List String :=
  ["path_mappings", "docker_image_id", "docker_container_name", "priority"]

/-- The arguments whose value is not nothing. -/
def withoutNulls (arguments : List (String × Datum)) : List (String × Datum) :=
  arguments.filter fun
    | (_, .null) => false
    | _ => true

/-- **The arguments with what the environment fills in**, and what is reported. -/
def filledArguments (env : Environment) (arguments : CatalogArguments) :
    Except Failure (CatalogArguments × Log) := do
  let given (name : String) := (Datum.field? name arguments.values).getD .null
  let mapping ← mountsFrom env (given "path_mappings")
  let (priority, log) := priorityFrom env (given "priority")
  let filled :=
    ("path_mappings", mapping.toDatum)
      :: argument "docker_image_id" (valueFrom env .image (given "docker_image_id"))
      ++ argument "docker_container_name"
          (valueFrom env .containerName (given "docker_container_name"))
      ++ argument "priority" priority
  let others := arguments.values.filter fun entry => !filledNames.contains entry.1
  let specs := match arguments.specs with
    | some (.other .null) => none
    | specs => specs
  return (⟨filled ++ withoutNulls others, specs⟩, log)

/-- **A configuration of the arguments and the environment** (`from_env`), and what is reported. -/
def ofEnvironment (env : Environment) (arguments : CatalogArguments) :
    Except Failure CatalogConfig × Log :=
  match filledArguments env arguments with
  | .ok (filled, log) => (ofArguments filled, log)
  | .error failure => (.error failure, [])

/-- The configuration as a record. -/
def toDatum (config : CatalogConfig) : Except Failure Datum :=
  config.specs.map fun specs =>
    .record [("path_mappings", config.mapping.toDatum), ("docker_image_id", config.image),
      ("docker_container_name", config.containerName), ("priority", config.priority),
      ("client_packages", .list config.packages),
      ("server_specs", .list (specs.map ServerSpec.toDatum))]

end CatalogConfig

end ContainerClients
