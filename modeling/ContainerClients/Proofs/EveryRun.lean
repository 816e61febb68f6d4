import ContainerClients.Proofs.GivenClients
import ContainerClients.Session

/-!
# What every run keeps of the registry

Whatever the steps of a session are, a client comes into the registry in one of two ways.  Either it
is supplied: it is made as a client of a server on the host, or what is installed gives it.  Or it
is the container client of a binding that a step asks for, on its own or by a filling, of the
session or of a command line that the session carries out.  So what both ways keep, every run keeps.

* `Installed.Supplies` — a client that comes from no binding.
* `World.Binds`, `World.BindsAlong` — the bindings that a step, and a run, ask for.
* `Registry.IsInvariant` — what the empty registry has, and both ways into a registry keep.
* `Registry.IsInvariant.execute` — a command line keeps it.
* `Registry.IsInvariant.perform`, **`Registry.IsInvariant.performAll`** — a step and a run keep it.
-/

namespace ContainerClients

open ContainerClients.Container ContainerClients.CommandLine

/-- **A client that comes from no binding.** -/
inductive Installed.Supplies (installed : Installed) (client : Client) : Prop where
  /-- it is made as a client of a server on the host -/
  | made (id command extensions priority : Datum) :
      Client.directNamed id command extensions priority = .ok client → Supplies installed client
  /-- a module gives it, or an entry point leads to it -/
  | given : installed.Gives client → Supplies installed client
  /-- an entry point of a group of its own leads to it -/
  | ledTo (group : String) : installed.LeadsTo group client → Supplies installed client

/-! ## What is asked for -/

/-- How a task fills the registry, if it does: what configures the catalog, and whether the launcher
enters a running container. -/
def CommandLine.Task.filling? : Task → Option (CatalogChoice × Bool)
  | .clients choice _ => some (choice, false)
  | .command choice _ attach _ | .run choice _ attach => some (choice, attach)
  | .showHelp | .translate .. | .doctor _ => none

/-- **The bindings that an invocation asks for**: those of the filling that it starts with. -/
def CommandLine.Invocation.Binds (invocation : Invocation) (env : Environment)
    (binding : Binding) : Prop :=
  ∃ choice attach config, invocation.task.filling? = some (choice, attach)
    ∧ (choice.config env).1 = .ok config
    ∧ Catalog.Binds config (launcherFor attach invocation.runtime) binding

/-- **The bindings that a step asks for.** -/
inductive World.Binds (world : World) : Step → Binding → Prop
  /-- the one of its arguments -/
  | registerContainer (arguments : List (String × Datum)) (choice : LauncherChoice)
    (slot : Option String) (binding : Binding) :
    Binding.ofArguments arguments choice.launcher = .ok binding →
    Binds world (.registerContainer arguments choice slot) binding
  /-- those of a filling -/
  | fill (choice : ConfigChoice) (launcher : LauncherChoice) (options : LoadOptions)
    (config : CatalogConfig) (binding : Binding) : (world.config choice).1 = .ok config →
    Catalog.Binds config launcher.launcher binding →
    Binds world (.fill choice launcher options) binding
  /-- those of a command line -/
  | invoke (arguments : List String) (probe : Probe) (input : List UInt8)
    (invocation : Invocation) (binding : Binding) : Invocation.parse arguments = .ok invocation →
    invocation.Binds world.around.env binding → Binds world (.invoke arguments probe input) binding

/-- **The bindings that a run asks for**: each is one of a step, in the world that the step
finds. -/
def World.BindsAlong (world : World) : List Step → Binding → Prop
  | [], _ => False
  | step :: rest, binding =>
    world.Binds step binding ∨ (world.perform step).world.BindsAlong rest binding

/-- **An invariant of the registry**, while some bindings are asked for. -/
structure Registry.IsInvariant (installed : Installed) (asked : Binding → Prop)
    (motive : Registry → Prop) : Prop where
  /-- the empty registry has it -/
  empty : motive .empty
  /-- a client that is supplied keeps it -/
  admits : Registry.Admits motive installed.Supplies
  /-- a binding that is asked for keeps it -/
  bound : ∀ (binding : Binding) registry registration, asked binding → motive registry →
    binding.register registry = .ok registration → motive registration.registry

/-! ## What stays of a world -/

/-- Mentioning the counter of a launcher leaves the surroundings as they are. -/
@[simp] lemma World.around_choose (world : World) (choice : LauncherChoice) :
    (world.choose choice).around = world.around := by
  rw [choose]
  split <;> rfl

/-- And it leaves what is registered and imported. -/
@[simp] lemma World.holdings_choose (world : World) (choice : LauncherChoice) :
    (world.choose choice).holdings = world.holdings := by
  rw [choose]
  split <;> rfl

@[simp] lemma World.registry_choose (world : World) (choice : LauncherChoice) :
    (world.choose choice).registry = world.registry :=
  congrArg Holdings.registry (world.holdings_choose choice)

@[simp] lemma World.around_keep (world : World) (slot : Option String) (client : Client) :
    (world.keep slot client).around = world.around := by
  cases slot <;> rfl

/-- **A step leaves what is installed as it is.** -/
lemma World.installed_perform (world : World) (step : Step) :
    (world.perform step).world.around.installed = world.around.installed := by
  cases step with
  | registerDirect id command extensions priority slot =>
    rw [perform, registerDirect.eq_def]
    split
    · rfl
    · exact congrArg Surroundings.installed (around_keep _ slot _)
  | registerContainer arguments choice slot =>
    rw [perform, registerContainer]
    split
    · exact congrArg Surroundings.installed (world.around_choose choice)
    · exact congrArg Surroundings.installed
        ((around_keep _ slot _).trans (world.around_choose choice))
  | fill config choice options =>
    rw [perform, fill]
    split
    · rfl
    · exact congrArg Surroundings.installed (world.around_choose choice)
  | load packages options =>
    rw [perform, load]
    split <;> rfl
  | loadOne package => cases package <;> rfl
  | connect subject =>
    rw [perform]
    split <;> rfl
  | launch choice request times =>
    exact congrArg Surroundings.installed (world.around_choose choice)
  | _ => rfl

namespace Registry.IsInvariant

variable {motive : Registry → Prop} {installed : Installed} {around : Surroundings}
  {asked : Binding → Prop} {holdings : Holdings}

/-- What is kept while some bindings are asked for is kept while fewer are. -/
lemma mono {fewer : Binding → Prop} (h : Registry.IsInvariant installed asked motive)
    (hfewer : ∀ binding, fewer binding → asked binding) :
    Registry.IsInvariant installed fewer motive where
  empty := h.empty
  admits := h.admits
  bound binding registry registration hbinding :=
    h.bound binding registry registration (hfewer binding hbinding)

/-! ## Filling, and command lines -/

lemma fill {options : LoadOptions} {launcher : Launcher} {config : CatalogConfig}
    (h : Registry.IsInvariant around.installed (Catalog.Binds config launcher) motive)
    (hstart : motive holdings.registry) :
    motive (Catalog.fill around options launcher config holdings).1.holdings.registry :=
  Catalog.kept_fill h.admits (fun _ => .given) h.bound hstart

section CommandLines

variable {machine : Machine} {stock : Stock} {choice : CatalogChoice} {launcher : Launcher}

section Filled

variable (h : Registry.IsInvariant machine.around.installed asked motive)
  (hasked : ∀ config, (choice.config machine.around.env).1 = .ok config →
    ∀ binding, Catalog.Binds config launcher binding → asked binding)
  (hstart : motive stock.holdings.registry)

include h hasked hstart

/-- The filling of a command line asks for the bindings of its configuration. -/
lemma fillStock : motive (fillStock machine stock choice launcher).2.1.holdings.registry := by
  rw [CommandLine.fillStock]
  split
  · exact hstart
  · rename_i config _ hconfig
    exact (h.mono (hasked config (congrArg Prod.fst hconfig))).fill hstart

/-- Connecting a client changes nothing that is registered, once the registry is filled. -/
lemma connectClient (id : String) :
    motive (connectClient machine stock choice launcher id).2.1.holdings.registry := by
  have hfilled : motive
      (CommandLine.fillStock machine stock choice launcher).2.1.holdings.registry :=
    h.fillStock hasked hstart
  rw [CommandLine.connectClient]
  generalize CommandLine.fillStock machine stock choice launcher = filled at hfilled ⊢
  obtain ⟨report, filled, log⟩ := filled
  cases report with
  | error failure => exact hfilled
  | ok report =>
    dsimp only
    cases filled.holdings.registry.require (.text id) with
    | error failure => exact hfilled
    | ok client => exact hfilled

/-- Without mounts the bundled packages are loaded, and with mounts the registry is filled. -/
lemma listClients (asJson : Bool) :
    motive (listClients machine stock choice launcher asJson).stock.holdings.registry := by
  have hstocked : motive (stockClients machine stock choice launcher).2.1.holdings.registry := by
    rw [stockClients]
    split
    · exact h.fillStock hasked hstart
    · exact kept_loadPackages h.admits (fun client hgives => .given hgives) hstart _ _
  exact hstocked

end Filled

/-- **A command line keeps an invariant** of the bindings that it asks for. -/
theorem execute {arguments : List String}
    (h : Registry.IsInvariant machine.around.installed asked motive)
    (hasked : ∀ invocation, Invocation.parse arguments = .ok invocation →
      ∀ binding, invocation.Binds machine.around.env binding → asked binding)
    (hstart : motive stock.holdings.registry) :
    motive (execute machine stock arguments).stock.holdings.registry := by
  rw [CommandLine.execute]
  split
  · exact hstart
  · rename_i invocation hparse
    have hfilling {choice : CatalogChoice} {attach : Bool}
        (htask : invocation.task.filling? = some (choice, attach)) (config : CatalogConfig)
        (hconfig : (choice.config machine.around.env).1 = .ok config) (binding : Binding)
        (hbinds : Catalog.Binds config (launcherFor attach invocation.runtime) binding) :
        asked binding :=
      hasked invocation hparse binding ⟨choice, attach, config, htask, hconfig, hbinds⟩
    rw [Invocation.execute]
    cases htask : invocation.task with
    | showHelp => exact hstart
    | clients choice asJson =>
      exact h.listClients (hfilling (congrArg Task.filling? htask)) hstart asJson
    | command choice id attach asJson =>
      exact h.connectClient (hfilling (congrArg Task.filling? htask)) hstart id
    | translate choice path toHost => exact hstart
    | run choice id attach =>
      exact h.connectClient (hfilling (congrArg Task.filling? htask)) hstart id
    | doctor asJson =>
      change motive (checkRuntime machine stock invocation.runtime asJson).stock.holdings.registry
      rw [checkRuntime]
      split
      · exact hstart
      · split <;> exact hstart

end CommandLines

/-! ## Steps and runs -/

section Runs

variable {world : World}

/-- **A step keeps an invariant** of the bindings that it asks for. -/
theorem perform {step : Step}
    (h : Registry.IsInvariant world.around.installed (world.Binds step) motive)
    (hstart : motive world.registry) : motive (world.perform step).world.registry := by
  cases step with
  | registerDirect id command extensions priority slot =>
    rw [World.perform, World.registerDirect.eq_def]
    cases hmade : Client.directNamed id command extensions priority with
    | error failure => exact hstart
    | ok client =>
      dsimp only
      rw [World.registry_keep]
      exact h.admits _ client hstart (.made id command extensions priority hmade)
  | registerContainer arguments choice slot =>
    rw [World.perform, World.registerContainer]
    split
    · change motive (world.choose choice).registry
      rw [World.registry_choose]
      exact hstart
    · rename_i registration hregistered
      obtain ⟨binding, hbinding, hregister⟩ := bind_eq_ok_iff.1 hregistered
      dsimp only
      rw [World.registry_keep]
      rw [World.registry_choose] at hregister
      exact h.bound binding _ registration
        (.registerContainer arguments choice slot binding hbinding) hstart hregister
  | fill choice launcher options =>
    rw [World.perform, World.fill]
    split
    · exact hstart
    · rename_i config log hconfig
      dsimp only
      rw [World.around_choose, World.holdings_choose]
      have hfilling := h.mono fun binding =>
        World.Binds.fill choice launcher options config binding (congrArg Prod.fst hconfig)
      exact hfilling.fill hstart
  | load packages options =>
    rw [World.perform, World.load]
    split
    · exact hstart
    · exact Catalog.kept_loadNamed h.admits (fun client hgives => .given hgives) hstart _ _
  | loadOne package =>
    cases package with
    | text package =>
      exact kept_loadPackage h.admits (fun client hgives => .given hgives) hstart package
    | _ => exact hstart
  | loadEntryPoints group =>
    exact kept_loadEntryPoints h.admits (fun client hleads => .ledTo group hleads) hstart
  | connect subject =>
    rw [World.perform]
    split <;> exact hstart
  | launch choice request times =>
    change motive (world.choose choice).registry
    rw [World.registry_choose]
    exact hstart
  | reset => exact h.empty
  | invoke arguments probe input =>
    have hmachine : Registry.IsInvariant (world.machine probe input).around.installed
        (world.Binds (.invoke arguments probe input)) motive := h
    have hstock : motive (Stock.mk world.holdings world.counters).holdings.registry := hstart
    refine hmachine.execute (fun invocation hparse binding => ?_) hstock
    exact .invoke arguments probe input invocation binding hparse
  | _ => exact hstart

/-- **A run keeps an invariant.** -/
theorem performAll {steps : List Step}
    (h : Registry.IsInvariant world.around.installed (world.BindsAlong steps) motive)
    (hstart : motive world.registry) : motive (world.performAll steps).2.registry := by
  induction steps generalizing world with
  | nil => exact hstart
  | cons step rest ih =>
    refine ih ?_ ((h.mono fun _ => .inl).perform hstart)
    rw [world.installed_perform step]
    exact h.mono fun _ => .inr

end Runs

end Registry.IsInvariant

end ContainerClients
