import ContainerClients.Catalog.Config
import ContainerClients.Client.Binding
import ContainerClients.Package.Loading

/-!
# The catalog

Filling a registry from a configuration loads the client packages and then registers a container
client for each specification.  A specification that cannot be used drops only its own client.

* `ServerSpec.resolve` — a specification with the defaults of the configuration applied
  (`resolve_server_spec`).
* `Report` — which clients were registered, which specifications failed last, which packages were
  loaded.
* `Catalog.fill` — filling a registry (`init_clients`).
-/

namespace ContainerClients

/-- **A specification with the defaults applied** (`ResolvedServer`). -/
structure ResolvedSpec where
  /-- the specification -/
  spec : ServerSpec
  /-- its image -/
  image : Datum
  /-- its container name -/
  containerName : Datum
  /-- its priority -/
  priority : Datum

/-- **Applies the defaults** (`resolve_server_spec`).  The default container name belongs to the
default image, so a specification with an image of its own needs a container name of its own. -/
def ServerSpec.resolve (spec : ServerSpec) (config : CatalogConfig) :
    Except Failure ResolvedSpec :=
  if spec.id.same spec.sourceId then .error (.invalidServerSpec spec.sourceId .sameId)
  else if spec.image.isTruthy && !spec.containerName.isTruthy then
    .error (.invalidServerSpec spec.id (.imageWithoutName spec.image))
  else
    .ok {
      spec
      image := spec.image.orElse config.image
      containerName := spec.containerName.orElse config.containerName
      priority := match spec.priority with
        | .null => config.priority
        | priority => priority }

/-- **The report of filling a registry** (`InitReport`). -/
structure Report where
  /-- the ids for which a client was registered, in the order of the first time -/
  registered : List ClientId := []
  /-- the ids whose last specification failed, with the failure -/
  failures : List (ClientId × Failure) := []
  /-- the outcome of each package -/
  packages : Outcomes := []

namespace Report

/-- Every last specification succeeded. -/
def isOk (report : Report) : Bool := report.failures.isEmpty

/-- Puts a failure in the place of an earlier one of the same id, or at the end. -/
def putFailure (id : ClientId) (failure : Failure) :
    List (ClientId × Failure) → List (ClientId × Failure)
  | [] => [(id, failure)]
  | entry :: rest =>
    if entry.1.key = id.key then (entry.1, failure) :: rest
    else entry :: putFailure id failure rest

/-- A specification failed. -/
def fail (report : Report) (id : ClientId) (failure : Failure) : Report :=
  { report with failures := putFailure id failure report.failures }

/-- Whether a client was registered for an id. -/
def hasRegistered (report : Report) (id : ClientId) : Bool :=
  report.registered.any (·.key == id.key)

/-- A specification succeeded. -/
def succeed (report : Report) (id : ClientId) : Report :=
  { report with
    failures := report.failures.filter (·.1.key != id.key)
    registered :=
      if report.hasRegistered id then report.registered else report.registered ++ [id] }

end Report

namespace Catalog

open ContainerClients.Container

/-- The binding of a resolved specification. -/
def binding (config : CatalogConfig) (launcher : Launcher) (resolved : ResolvedSpec) : Binding where
  sourceId := resolved.spec.sourceId
  id := resolved.spec.id
  command := resolved.spec.command
  mounts := config.mapping.toDatum
  containerName := resolved.containerName
  image := resolved.image
  priority := resolved.priority
  launcher := launcher

/-- Registers the container client of one specification. -/
def registerSpec (config : CatalogConfig) (launcher : Launcher) (registry : Registry)
    (spec : ServerSpec) : Except Failure Binding.Registration := do
  let resolved ← spec.resolve config
  (binding config launcher resolved).register registry

/-- **How far filling has come.** -/
structure Progress where
  /-- what is registered and imported -/
  holdings : Holdings
  /-- the report -/
  report : Report
  /-- what is reported on the way -/
  log : Log

/-- Takes a registration over. -/
def Progress.succeed (progress : Progress) (registration : Binding.Registration) : Progress where
  holdings := { progress.holdings with registry := registration.registry }
  report := progress.report.succeed registration.client.id
  log := progress.log ++ registration.log

/-- Passes over a specification that cannot be used; the failure is recorded under its id. -/
def Progress.skip (progress : Progress) (id : Datum) (failure : Failure) :
    Progress × Option Failure :=
  let log := progress.log ++ [.skipping id.shown failure]
  match ClientId.ofDatum? id with
  | some id => ({ progress with report := progress.report.fail id failure, log }, none)
  | none => ({ progress with log }, some .mistyped)

/-- One specification.  The library's own failures are recorded and passed over; any other ends the
filling. -/
def fillSpec (config : CatalogConfig) (launcher : Launcher) (progress : Progress)
    (spec : ServerSpec) : Progress × Option Failure :=
  match registerSpec config launcher progress.holdings.registry spec with
  | .ok registration => (progress.succeed registration, none)
  | .error failure =>
    if failure.isOwn then progress.skip spec.id failure else (progress, some failure)

/-- Specifications in order, up to the first failure that ends the filling. -/
def fillSpecs (config : CatalogConfig) (launcher : Launcher) (progress : Progress) :
    List ServerSpec → Progress × Option Failure
  | [] => (progress, none)
  | spec :: rest =>
    match fillSpec config launcher progress spec with
    | (progress, none) => fillSpecs config launcher progress rest
    | (progress, some failure) => (progress, some failure)

/-- The names at the front of a list of values, and whether every value is a name. -/
def leadingNames : List Datum → List String × Bool
  | .text s :: rest => (s :: (leadingNames rest).1, (leadingNames rest).2)
  | [] => ([], true)
  | _ => ([], false)

/-- Loads packages that are named by values.  A value that is no name ends the loading. -/
def loadNamed (around : Surroundings) (options : LoadOptions) (holdings : Holdings)
    (packages : List Datum) : Loaded Outcomes :=
  match leadingNames packages with
  | (names, true) => loadPackages around options holdings names
  | (names, false) =>
    (loadPackages around ⟨false, false⟩ holdings names).andThen fun holdings _ =>
      ⟨holdings, .error .mistyped, []⟩

/-- **Filling a registry** (`init_clients`): the packages, then the specifications.  Ends early with
a failure that is not one of the library's own. -/
def fill (around : Surroundings) (options : LoadOptions) (launcher : Launcher)
    (config : CatalogConfig) (holdings : Holdings) : Progress × Option Failure :=
  let loaded := loadNamed around options holdings config.packages
  match loaded.outcome, config.specs with
  | .error failure, _ => (⟨loaded.holdings, {}, loaded.log⟩, some failure)
  | .ok packages, .error failure => (⟨loaded.holdings, { packages }, loaded.log⟩, some failure)
  | .ok packages, .ok specs =>
    fillSpecs config launcher ⟨loaded.holdings, { packages }, loaded.log⟩ specs

end Catalog

end ContainerClients
