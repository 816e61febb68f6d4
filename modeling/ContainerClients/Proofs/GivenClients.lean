import ContainerClients.Proofs.Filling
import ContainerClients.Proofs.TextIds

/-!
# Where the clients of a registry come from

A registry is filled from what packages and entry points give, and with the container clients made
from those: there is no other way into a registry.  So what a registry keeps when such clients are
registered, loading and filling keep as well.  In particular, what holds of every client that is
given and of every container client holds of every client that is found later.

* `Installed.Gives`, `Installed.LeadsTo` — a client is among what is installed, or what the entry
  points of a group lead to.
* `Registry.All` — something holds of every client of a registry; registering keeps it.
* **`kept_loadPackages`**, **`kept_loadEntryPoints`** — loading registers only clients that are
  given.
* `Catalog.Binds` — the bindings of a filling.
* **`Catalog.kept_fill`**, **`Catalog.all_fill`** — filling adds the container clients of these,
  with the launcher that it is told.
-/

namespace ContainerClients

/-! ## What is given -/

/-- A client is among what a module gives. -/
def Export.Gives (client : Client) : Export → Prop
  | .collection items => .client client ∈ items
  | .nothing | .single => False

/-- **A client that is installed**: a module gives it, or an entry point leads to it. -/
inductive Installed.Gives (installed : Installed) (client : Client) : Prop where
  /-- a module gives it -/
  | package (package : Package) (member : Member) : package ∈ installed.packages →
      package.member? clientsName = some member → member.value.given.Gives client →
      Gives installed client
  /-- an entry point leads to it -/
  | entryPoint (entryPoint : EntryPoint) (imported imported' : Imported) (given : Export) :
      entryPoint ∈ (installed.entryPointsOf entryPointGroup).1 →
      entryPoint.load installed imported = (.ok given, imported') → given.Gives client →
      Gives installed client

/-- **The entry points of a group lead to a client.** -/
def Installed.LeadsTo (installed : Installed) (group : String) (client : Client) : Prop :=
  ∃ entryPoint ∈ (installed.entryPointsOf group).1, ∃ imported imported' given,
    entryPoint.load installed imported = (.ok given, imported') ∧ given.Gives client

/-- What the entry points of the library's own group lead to is installed. -/
lemma Installed.LeadsTo.gives {installed : Installed} {client : Client}
    (h : installed.LeadsTo entryPointGroup client) : installed.Gives client := by
  obtain ⟨entryPoint, hmem, imported, imported', given, hload, hclient⟩ := h
  exact .entryPoint entryPoint imported imported' given hmem hload hclient

/-! ## Registries -/

/-- The clients of places with one more: that one, or one that was there. -/
lemma mem_putClient {client other : Client} {places : List Place}
    (h : other ∈ (putClient client places).map (·.client)) :
    other = client ∨ other ∈ places.map (·.client) := by
  induction places with
  | nil => exact .inl (List.mem_singleton.1 h)
  | cons place rest ih =>
    rw [putClient] at h
    split at h
    · rcases List.mem_cons.1 h with rfl | h
      · exact .inl rfl
      · exact .inr (List.mem_cons_of_mem _ h)
    · rcases List.mem_cons.1 h with rfl | h
      · exact .inr List.mem_cons_self
      · exact (ih h).imp_right (List.mem_cons_of_mem _)

/-- **Something holds of every client** of a registry. -/
def Registry.All (P : Client → Prop) (registry : Registry) : Prop :=
  ∀ client ∈ registry.clients, P client

namespace Registry.All

variable {P : Client → Prop} {registry : Registry}

lemma empty : Registry.empty.All P := fun _ hclient => absurd hclient List.not_mem_nil

/-- A registry all of whose clients are such takes one more. -/
lemma admits : Registry.Admits (Registry.All P) P := by
  intro registry client h hclient other hother
  rcases mem_putClient hother with rfl | hmem
  · exact hclient
  · exact h other hmem

lemma get? (h : registry.All P) {id : ClientId} {client : Client}
    (hfound : registry.get? id = some client) : P client := by
  obtain ⟨place, hplace, rfl⟩ := Option.map_eq_some_iff.1 hfound
  exact h _ (List.mem_map_of_mem (List.mem_of_find?_eq_some hplace))

lemma require (h : registry.All P) {id : ClientId} {client : Client}
    (hfound : registry.require id = .ok client) : P client := h.get? (get?_of_require hfound)

end Registry.All

/-! ## Loading -/

/-- What an imported module gives is what one of the modules gives, or nothing. -/
lemma Installed.gives_of_clientsExport? {installed : Installed} {imported : Imported}
    {package : Package} {name : String} (hfind : installed.find? name = some package)
    {given : Export} (hgiven : installed.clientsExport? imported package = some given)
    {client : Client} (hclient : given.Gives client) : installed.Gives client := by
  rw [Installed.clientsExport?, Option.map_eq_some_iff] at hgiven
  obtain ⟨value, hvalue, rfl⟩ := hgiven
  rw [resolve?] at hvalue
  split at hvalue
  -- a module below it of that name is no collection
  · obtain ⟨found, -, rfl⟩ := Option.map_eq_some_iff.1 hvalue
    exact hclient.elim
  · obtain ⟨member, hmember, rfl⟩ := Option.map_eq_some_iff.1 hvalue
    rcases Option.or_eq_some_iff.1 hfind with hfound | ⟨-, hparent⟩
    · exact .package package member (List.mem_of_find?_eq_some hfound) hmember hclient
    · split at hparent
      · obtain rfl := Option.some.inj hparent
        rw [member?_parent] at hmember
        contradiction
      · contradiction

section Loading

variable {motive : Registry → Prop} {P : Client → Prop} {α β : Type} {installed : Installed}
  {holdings : Holdings}

/-- One loading after the other keeps what both keep. -/
lemma Loaded.kept_andThen {loaded : Loaded α} (h : motive loaded.holdings.registry)
    {next : Holdings → α → Loaded β}
    (hnext : ∀ holdings outcome, motive holdings.registry →
      motive (next holdings outcome).holdings.registry) :
    motive (loaded.andThen next).holdings.registry := by
  rw [Loaded.andThen]
  split
  · exact h
  · exact hnext _ _ h

lemma Loaded.kept_foldl {loaded : Loaded β} (h : motive loaded.holdings.registry) {items : List α}
    {step : α → Holdings → β → Loaded β}
    (hstep : ∀ item ∈ items, ∀ holdings outcome, motive holdings.registry →
      motive (step item holdings outcome).holdings.registry) :
    motive
      (items.foldl (fun loaded item => loaded.andThen (step item)) loaded).holdings.registry := by
  induction items generalizing loaded with
  | nil => exact h
  | cons item rest ih =>
    exact ih (Loaded.kept_andThen h (hstep item List.mem_cons_self))
      fun next hmem => hstep next (List.mem_cons_of_mem _ hmem)

/-- The clients that can be registered are among those that are given. -/
lemma mem_of_mem_registrableClients {items : List ExportItem} {client : Client}
    (h : client ∈ (registrableClients items).1) : .client client ∈ items := by
  induction items with
  | nil => exact absurd h List.not_mem_nil
  | cons item rest ih =>
    cases item with
    | client first =>
      rcases List.mem_cons.1 h with rfl | h
      · exact List.mem_cons_self
      · exact List.mem_cons_of_mem _ (ih h)
    | unregistrable => exact absurd h List.not_mem_nil
    | foreign => exact List.mem_cons_of_mem _ (ih h)

lemma kept_registerExport (hadmits : Registry.Admits motive P) (h : motive holdings.registry)
    (source : String) {given : Export} (hgiven : ∀ client, given.Gives client → P client) :
    motive (registerExport holdings source given).holdings.registry := by
  cases given with
  | nothing | single => exact h
  | collection items =>
    refine hadmits.registerAll h fun client hclient => hgiven client ?_
    exact List.mem_of_mem_filter (mem_of_mem_registrableClients hclient)

/-- **Loading a package registers only clients that are given.** -/
lemma kept_loadPackage (hadmits : Registry.Admits motive P)
    (hinstalled : ∀ client, installed.Gives client → P client) (h : motive holdings.registry)
    (package : String) : motive (loadPackage installed holdings package).holdings.registry := by
  rw [loadPackage]
  dsimp only
  split
  · exact h
  · rename_i found imported himport
    obtain ⟨name, hfind⟩ := Installed.exists_find?_of_importPackage himport
    refine Loaded.kept_andThen (kept_registerExport hadmits ?_ _ fun client hclient => ?_) ?_
    · exact h
    · cases hexport : installed.clientsExport? imported found with
      | none =>
        rw [hexport] at hclient
        exact hclient.elim
      | some given =>
        rw [hexport] at hclient
        exact hinstalled client (Installed.gives_of_clientsExport? hfind hexport hclient)
    · exact fun holdings isLoaded hh => hh

lemma kept_loadDistinct (hadmits : Registry.Admits motive P)
    (hinstalled : ∀ client, installed.Gives client → P client) {start : Loaded Outcomes}
    (h : motive start.holdings.registry) (packages : List String) :
    motive (loadDistinct installed start packages).holdings.registry := by
  refine Loaded.kept_foldl h fun package _ holdings outcomes hh => ?_
  split
  · exact hh
  · exact Loaded.kept_andThen (kept_loadPackage hadmits hinstalled hh package) fun _ _ hh => hh

/-- **Loading the entry points of a group registers only clients that they lead to.** -/
theorem kept_loadEntryPoints (hadmits : Registry.Admits motive P) {group : String}
    (hgroup : ∀ client, installed.LeadsTo group client → P client) (h : motive holdings.registry) :
    motive (loadEntryPoints installed holdings group).holdings.registry := by
  refine Loaded.kept_foldl (by exact h) fun entryPoint hmem holdings outcomes hh => ?_
  refine Loaded.kept_andThen ?_ fun _ _ hh => hh
  rw [loadEntryPoint]
  split
  · exact hh
  · rename_i given imported hload
    refine kept_registerExport hadmits ?_ _ fun client hclient => ?_
    · exact hh
    · exact hgroup client ⟨entryPoint, hmem, _, _, given, hload, hclient⟩

/-- **Loading packages registers only clients that are given.** -/
theorem kept_loadPackages (hadmits : Registry.Admits motive P) {around : Surroundings}
    (hinstalled : ∀ client, around.installed.Gives client → P client)
    (h : motive holdings.registry) (options : LoadOptions) (packages : List String) :
    motive (loadPackages around options holdings packages).holdings.registry := by
  have hstart : motive (Loaded.done holdings ([] : Outcomes)).holdings.registry := h
  have hdistinct := kept_loadDistinct hadmits hinstalled hstart
    (packages ++ if options.fromEnvironment then around.env.packages else [])
  rw [loadPackages]
  split
  · refine Loaded.kept_andThen hdistinct fun holdings outcomes hh => ?_
    have hpoints := kept_loadEntryPoints hadmits
      (fun client hleads => hinstalled client hleads.gives) hh
    exact Loaded.kept_andThen hpoints fun _ _ hh => hh
  · exact hdistinct

end Loading

/-! ## Filling -/

namespace Catalog

open ContainerClients.Container

variable {motive : Registry → Prop} {P : Client → Prop} {around : Surroundings}
  {options : LoadOptions} {launcher : Launcher} {config : CatalogConfig} {holdings : Holdings}

lemma kept_loadNamed (hadmits : Registry.Admits motive P)
    (hinstalled : ∀ client, around.installed.Gives client → P client)
    (h : motive holdings.registry) (options : LoadOptions) (packages : List Datum) :
    motive (loadNamed around options holdings packages).holdings.registry := by
  rw [loadNamed]
  split
  · exact kept_loadPackages hadmits hinstalled h _ _
  · exact Loaded.kept_andThen (kept_loadPackages hadmits hinstalled h _ _) fun _ _ hh => hh

/-- One specification registers the container client of a binding, or nothing. -/
lemma kept_fillSpec {spec : ServerSpec}
    (hbound : ∀ resolved, spec.resolve config = .ok resolved → ∀ registry registration,
      motive registry → (binding config launcher resolved).register registry = .ok registration →
      motive registration.registry)
    {progress : Progress} (h : motive progress.holdings.registry) :
    motive (fillSpec config launcher progress spec).1.holdings.registry := by
  cases hspec : registerSpec config launcher progress.holdings.registry spec with
  | error failure =>
    rw [(fillSpec_of_error hspec).1]
    exact h
  | ok registration =>
    obtain ⟨resolved, hresolved, hregister⟩ := bind_eq_ok_iff.1 hspec
    rw [fillSpec_of_ok hspec]
    exact hbound resolved hresolved _ _ h hregister

/-- **The bindings that a filling registers**: those of its specifications. -/
def Binds (config : CatalogConfig) (launcher : Launcher) (binding : Binding) : Prop :=
  ∃ specs spec resolved, config.specs = .ok specs ∧ spec ∈ specs
    ∧ spec.resolve config = .ok resolved ∧ binding = Catalog.binding config launcher resolved

/-- **Filling registers only clients that are given, and the clients of its bindings.** -/
theorem kept_fill (hadmits : Registry.Admits motive P)
    (hinstalled : ∀ client, around.installed.Gives client → P client)
    (hbound : ∀ (binding : Binding) registry registration, Binds config launcher binding →
      motive registry → binding.register registry = .ok registration →
      motive registration.registry)
    (h : motive holdings.registry) :
    motive (fill around options launcher config holdings).1.holdings.registry := by
  have hloaded : motive (loadNamed around options holdings config.packages).holdings.registry :=
    kept_loadNamed hadmits hinstalled h _ _
  rw [fill]
  split
  · exact hloaded
  · exact hloaded
  · rename_i specs _ hspecs
    refine kept_fillSpecs (motive := fun progress => motive progress.holdings.registry) ?_ hloaded
    refine fun progress spec hmem hh => kept_fillSpec (fun resolved hresolved => ?_) hh
    exact fun registry registration =>
      hbound _ registry registration ⟨specs, spec, resolved, hspecs, hmem, hresolved, rfl⟩

/-- **What holds of every client that is given, and of every container client** with the launcher
that it is told, holds of every client after a filling. -/
theorem all_fill (hinstalled : ∀ client, around.installed.Gives client → P client)
    (hmade : ∀ (source : Client) (own : Derivation), own.launcher = launcher →
      P (source.inContainer own))
    (h : holdings.registry.All P) :
    (fill around options launcher config holdings).1.holdings.registry.All P := by
  refine kept_fill Registry.All.admits hinstalled ?_ h
  rintro binding registry registration ⟨specs, spec, resolved, -, -, -, rfl⟩ hh hregister
  obtain ⟨source, command, mapping, id, -, -, -, -, hclient, hregistry, -⟩ :=
    Binding.exists_of_register hregister
  rw [hregistry]
  refine Registry.All.admits registry registration.client hh ?_
  rw [hclient]
  exact hmade source _ rfl

end Catalog

end ContainerClients
