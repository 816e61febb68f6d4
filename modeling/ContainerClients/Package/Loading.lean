import ContainerClients.Package.Bundled
import ContainerClients.Package.EntryPoint

/-!
# Loading client packages

Loading does its best: a package that cannot be imported or gives no clients is reported and
counted as failed, and the others are loaded all the same.

* `Surroundings` — the environment and what is installed.
* `clientsOf` — the clients in what a module gives.
* `loadPackage`, `loadEntryPoints` — loading one package, and all entry points of a group.
* `loadPackages` — the packages, those of the environment and the entry points, each name with its
  outcome.
-/

namespace ContainerClients

/-- **What the library finds around it.** -/
structure Surroundings where
  /-- the environment -/
  env : Environment
  /-- the modules and entry points -/
  installed : Installed

/-- No variable is set, and nothing is installed. -/
def Surroundings.bare : Surroundings := ⟨.empty, ⟨[], [], .ok []⟩⟩

/-- **What loading changes**: what is registered, and what is imported. -/
structure Holdings where
  /-- the registry -/
  registry : Registry
  /-- the modules that were imported -/
  imported : Imported

/-- **What loading comes to.** -/
structure Loaded (α : Type) where
  /-- the registry with the clients that were loaded, and the modules that were imported -/
  holdings : Holdings
  /-- the outcome, or the failure that ended the loading -/
  outcome : Except Failure α
  /-- what is reported -/
  log : Log

namespace Loaded

/-- Nothing more to load. -/
def done {α : Type} (holdings : Holdings) (outcome : α) : Loaded α := ⟨holdings, .ok outcome, []⟩

/-- **One loading after the other**, unless the first one ended with a failure. -/
def andThen {α β : Type} (loaded : Loaded α) (next : Holdings → α → Loaded β) : Loaded β :=
  match loaded.outcome with
  | .error failure => ⟨loaded.holdings, .error failure, loaded.log⟩
  | .ok outcome =>
    let more := next loaded.holdings outcome
    ⟨more.holdings, more.outcome, loaded.log ++ more.log⟩

@[simp] theorem done_andThen {α β : Type} (holdings : Holdings) (outcome : α)
    (next : Holdings → α → Loaded β) :
    (done holdings outcome).andThen next = next holdings outcome := by
  simp [done, andThen]

/-- **Loadings in a row can be taken together in any way.** -/
theorem andThen_assoc {α β γ : Type} (loaded : Loaded α) (next : Holdings → α → Loaded β)
    (last : Holdings → β → Loaded γ) :
    (loaded.andThen next).andThen last
      = loaded.andThen fun holdings outcome => (next holdings outcome).andThen last := by
  rcases loaded with ⟨holdings, failure | outcome, log⟩
  · rfl
  · simp only [andThen]
    rcases next holdings outcome with ⟨holdings, failure | outcome, log⟩ <;>
      simp [List.append_assoc]

end Loaded

/-! ## Clients in what a module gives -/

/-- One of the things that a module gives is a client. -/
def ExportItem.isClient : ExportItem → Bool
  | .client _ | .unregistrable => true
  | .foreign => false

/-- **The clients in what a module gives** (`_valid_clients`), or nothing when it gives no
collection; with what is reported. -/
def clientsOf (source : String) : Export → Option (List ExportItem) × Log
  | .nothing => (none, [.withoutClients source])
  | .single => (none, [.notACollection source])
  | .collection items =>
    let clients := items.filter ExportItem.isClient
    let foreign := items.length - clients.length
    (some clients, if foreign = 0 then [] else [.foreignItems source foreign])

/-- The clients in front of the first one that nothing can be registered under, and whether they are
all. -/
def registrableClients : List ExportItem → List Client × Bool
  | [] => ([], true)
  | .client client :: rest =>
    let (clients, areAll) := registrableClients rest
    (client :: clients, areAll)
  | .unregistrable :: _ => ([], false)
  | .foreign :: rest => registrableClients rest

/-- **All clients are registered unless there is one that nothing can be registered under.** -/
theorem registrableClients_snd (items : List ExportItem) :
    (registrableClients items).2 = true ↔ ExportItem.unregistrable ∉ items := by
  induction items with
  | nil => simp [registrableClients]
  | cons item rest ih => cases item <;> simp [registrableClients, ih]

/-- Registers the clients in what a module gives; whether there are any. -/
def registerExport (holdings : Holdings) (source : String) (given : Export) : Loaded Bool :=
  match clientsOf source given with
  | (none, log) => ⟨holdings, .ok false, log⟩
  | (some items, log) =>
    let (clients, areAll) := registrableClients items
    ⟨{ holdings with registry := holdings.registry.registerAll clients },
      if areAll then .ok true else .error .mistyped,
      log ++ holdings.registry.registrationLogs clients⟩

/-! ## One package -/

/-- How many clients are in what a module gives. -/
def Export.clientCount : Export → Nat
  | .collection items => (items.filter ExportItem.isClient).length
  | _ => 0

/-- **Loading a package** (`load_client_package`); whether it succeeds. -/
def loadPackage (installed : Installed) (holdings : Holdings) (package : String) : Loaded Bool :=
  let name := fullName package
  match installed.importPackage holdings.imported name with
  | (.error fault, imported) =>
    ⟨{ holdings with imported }, .ok false, [.importFailed name fault.message]⟩
  | (.ok found, imported) =>
    let given := (installed.clientsExport? imported found).getD .nothing
    (registerExport { holdings with imported } name given).andThen fun holdings isLoaded =>
      ⟨holdings, .ok isLoaded, if isLoaded then [.packageLoaded name given.clientCount] else []⟩

/-! ## Several packages -/

/-- The outcome of each name, in order. -/
abbrev Outcomes := List (String × Bool)

/-- The outcomes with one changed; a new name goes to the end. -/
def Outcomes.put (name : String) (outcome : Bool) : Outcomes → Outcomes
  | [] => [(name, outcome)]
  | entry :: rest =>
    if entry.1 = name then (name, outcome) :: rest else entry :: Outcomes.put name outcome rest

/-- Loads packages in order, each name once. -/
def loadDistinct (installed : Installed) (start : Loaded Outcomes) (packages : List String) :
    Loaded Outcomes :=
  packages.foldl (fun loaded package =>
    loaded.andThen fun holdings outcomes =>
      if outcomes.any (·.1 == package) then .done holdings outcomes
      else (loadPackage installed holdings package).andThen fun holdings isLoaded =>
        .done holdings (outcomes ++ [(package, isLoaded)])) start

/-! ## Entry points -/

/-- Loads one entry point. -/
def loadEntryPoint (installed : Installed) (holdings : Holdings) (entryPoint : EntryPoint) :
    Loaded Bool :=
  match entryPoint.load installed holdings.imported with
  | (.error fault, imported) =>
    ⟨{ holdings with imported }, .ok false, [.entryPointFailed entryPoint.name fault.message]⟩
  | (.ok given, imported) => registerExport { holdings with imported } entryPoint.name given

/-- The entry points of a group (`_entry_points_for_group`), with what is reported. -/
def Installed.entryPointsOf (installed : Installed) (group : String) : List EntryPoint × Log :=
  match installed.entryPoints with
  | .ok entryPoints => (entryPoints.filter (·.group == group), [])
  | .error reason => ([], [.entryPointsUnreadable group reason])

/-- **Loading the entry points of a group** (`load_entry_point_clients`), in order; a name that
comes again takes the later outcome. -/
def loadEntryPoints (installed : Installed) (holdings : Holdings) (group : String) :
    Loaded Outcomes :=
  let (entryPoints, log) := installed.entryPointsOf group
  entryPoints.foldl (fun loaded entryPoint =>
    loaded.andThen fun holdings outcomes =>
      (loadEntryPoint installed holdings entryPoint).andThen fun holdings isLoaded =>
        .done holdings (outcomes.put entryPoint.name isLoaded))
    ⟨holdings, .ok [], log⟩

/-- The additional packages that the environment names (`env_client_packages`). -/
def Environment.packages (env : Environment) : List String := env.items .packages

/-- What is loaded beside the packages that are named. -/
structure LoadOptions where
  /-- the packages of the environment -/
  fromEnvironment : Bool := true
  /-- the entry points -/
  fromEntryPoints : Bool := true

/-- **Loading packages** (`load_client_packages`): those that are named, those of the environment,
and the entry points. -/
def loadPackages (around : Surroundings) (options : LoadOptions) (holdings : Holdings)
    (packages : List String) : Loaded Outcomes :=
  let extra := if options.fromEnvironment then around.env.packages else []
  let loaded := loadDistinct around.installed (.done holdings []) (packages ++ extra)
  if options.fromEntryPoints then
    loaded.andThen fun holdings outcomes =>
      (loadEntryPoints around.installed holdings entryPointGroup).andThen fun holdings points =>
        .done holdings (points.foldl (fun all entry => all.put entry.1 entry.2) outcomes)
  else loaded

end ContainerClients
