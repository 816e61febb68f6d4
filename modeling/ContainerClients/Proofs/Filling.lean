import ContainerClients.Catalog
import ContainerClients.Package.Library
import ContainerClients.Proofs.Derivations

/-!
# Filling a registry, one specification after the other

A specification that succeeds registers its client.  One that fails with a failure of the library's
own is passed over, and any other failure ends the filling.  The laws here say what a single
specification does, and from that what a run of them comes to.

* `Registry.get?_registerAll` — of several clients with one id, the last is found.
* `Registry.Admits` — registering such clients keeps something of a registry.
* `ServerSpec.settled`, `ServerSpec.client` — what a specification comes to with the defaults, and
  its client.
* `Binding.client_eq`, `Catalog.registerSpec_eq` — the checks of a binding and of a specification,
  in their order.
* `Binding.exists_of_register` — a binding registers a container client and nothing else.
* `Catalog.fillSpec_of_ok`, `fillSpec_of_own`, `fillSpec_of_foreign` — what one specification does.
* `Catalog.kept_fillSpecs` — what every specification keeps, a run keeps.
* `Catalog.Success`, `Catalog.successes` — the specifications that succeed at their turn.
* **`Catalog.registry_fillSpecs`**, **`Catalog.hasRegistered_fillSpecs`** — a run registers the
  clients of its successes, and reports their ids.
-/

namespace ContainerClients

open ContainerClients.Container

/-! ## Several registrations -/

/-- **Of several clients with one id, the last is found.** -/
theorem Registry.get?_registerAll (registry : Registry) (clients : List Client) (id : ClientId) :
    (registry.registerAll clients).get? id
      = (clients.reverse.find? (·.id.key == id.key)).or (registry.get? id) := by
  induction clients generalizing registry with
  | nil => rfl
  | cons client rest ih =>
      have hstep : registry.registerAll (client :: rest)
          = (registry.register client).registerAll rest := rfl
      rw [hstep, ih, get?_register, List.reverse_cons, List.find?_append, Option.or_assoc]
      by_cases h : id.key = client.id.key
      · rw [if_pos h, List.find?_cons_of_pos (by rw [h]; exact beq_self_eq_true _)]
        rfl
      · rw [if_neg h, List.find?_cons_of_neg (by simpa using fun he => h he.symm)]
        rfl

/-- **Registering such clients keeps something** of a registry. -/
def Registry.Admits (motive : Registry → Prop) (P : Client → Prop) : Prop :=
  ∀ registry client, motive registry → P client → motive (registry.register client)

lemma Registry.Admits.registerAll {motive : Registry → Prop} {P : Client → Prop}
    (h : Admits motive P) {registry : Registry} (hregistry : motive registry)
    {clients : List Client} (hclients : ∀ client ∈ clients, P client) :
    motive (registry.registerAll clients) := by
  induction clients generalizing registry with
  | nil => exact hregistry
  | cons client rest ih =>
    exact ih (h registry client hregistry (hclients client List.mem_cons_self))
      fun next hmem => hclients next (List.mem_cons_of_mem _ hmem)

/-! ## One specification -/

/-- **A specification with the defaults**, whether or not it may have them. -/
def ServerSpec.settled (spec : ServerSpec) (config : CatalogConfig) : ResolvedSpec where
  spec
  image := spec.image.orElse config.image
  containerName := spec.containerName.orElse config.containerName
  priority := match spec.priority with
    | .null => config.priority
    | priority => priority

/-- **The client of a specification**: it is made from another one, with the words of its command,
the mounts and its own id. -/
def ServerSpec.client (spec : ServerSpec) (config : CatalogConfig) (launcher : Launcher)
    (source : Client) (command : List String) (mapping : Mapping) (id : ClientId) : Client :=
  source.inContainer
    { id
      command
      priority := (spec.settled config).priority
      mapping
      containerName := (spec.settled config).containerName
      image := (spec.settled config).image
      launcher }

/-- **The checks of a binding, in their order**: its ids differ, its source is registered, its
command can be cut into words, the mounts can be read, and its id can be one. -/
lemma Binding.client_eq (binding : Binding) (registry : Registry) :
    binding.client registry
      = if binding.id.same binding.sourceId then
          .error (.invalidServerSpec binding.sourceId .sameId)
        else (registry.requireNamed binding.sourceId).bind fun source =>
          (Command.words binding.command).bind fun command =>
            (Mapping.ofDatum binding.mounts).bind fun mapping =>
              binding.id.needId.map fun id =>
                source.inContainer ⟨id, command, binding.priority, mapping, binding.containerName,
                  binding.image, binding.launcher⟩ := by
  have hderivation : ∀ source : Client,
      (binding.derivation.bind fun own => .ok (source.inContainer own))
        = (Command.words binding.command).bind fun command =>
            (Mapping.ofDatum binding.mounts).bind fun mapping =>
              binding.id.needId.map fun id =>
                source.inContainer ⟨id, command, binding.priority, mapping, binding.containerName,
                  binding.image, binding.launcher⟩ := by
    intro source
    rw [derivation]
    cases Command.words binding.command with
    | error failure => rfl
    | ok command =>
      cases Mapping.ofDatum binding.mounts with
      | error failure => rfl
      | ok mapping => cases binding.id.needId <;> rfl
  rw [client]
  simp only [← hderivation]
  by_cases hsame : binding.id.same binding.sourceId
  · rw [if_pos hsame, if_pos hsame]
    rfl
  · rw [if_neg hsame, if_neg hsame]
    rfl

/-- **A binding registers a container client**, which is made from the client under the id that it
names, and nothing else. -/
lemma Binding.exists_of_register {binding : Binding} {registry : Registry}
    {registration : Registration} (h : binding.register registry = .ok registration) :
    ∃ source command mapping id, registry.requireNamed binding.sourceId = .ok source
      ∧ Command.words binding.command = .ok command
      ∧ Mapping.ofDatum binding.mounts = .ok mapping
      ∧ binding.id.needId = .ok id
      ∧ registration.client = source.inContainer ⟨id, command, binding.priority, mapping,
          binding.containerName, binding.image, binding.launcher⟩
      ∧ registration.registry = registry.register registration.client
      ∧ registration.log = binding.log registry registration.client := by
  obtain ⟨client, hclient, rfl⟩ := map_eq_ok_iff.1 h
  rw [client_eq] at hclient
  split_ifs at hclient
  obtain ⟨source, hsource, hclient⟩ := bind_eq_ok_iff.1 hclient
  obtain ⟨command, hcommand, hclient⟩ := bind_eq_ok_iff.1 hclient
  obtain ⟨mapping, hmapping, hclient⟩ := bind_eq_ok_iff.1 hclient
  obtain ⟨id, hid, rfl⟩ := map_eq_ok_iff.1 hclient
  exact ⟨source, command, mapping, id, hsource, hcommand, hmapping, hid, rfl, rfl, rfl⟩

namespace Catalog

variable {config : CatalogConfig} {launcher : Launcher} {registry : Registry} {spec : ServerSpec}
  {progress last : Progress} {failure : Failure} {registration : Binding.Registration}

/-- The registration of a client under the name of a specification. -/
def registrationOf (config : CatalogConfig) (launcher : Launcher) (registry : Registry)
    (spec : ServerSpec) (client : Client) : Binding.Registration :=
  ⟨client, registry.register client,
    (binding config launcher (spec.settled config)).log registry client⟩

/-- **The checks of a specification, in their order**: its ids differ, its image has a container
name, its source is registered, its command can be cut into words, the mounts can be read again,
and its id can be one. -/
lemma registerSpec_eq (config : CatalogConfig) (launcher : Launcher) (registry : Registry)
    (spec : ServerSpec) :
    registerSpec config launcher registry spec
      = if spec.id.same spec.sourceId then .error (.invalidServerSpec spec.sourceId .sameId)
        else if spec.image.isTruthy && !spec.containerName.isTruthy then
          .error (.invalidServerSpec spec.id (.imageWithoutName spec.image))
        else (registry.requireNamed spec.sourceId).bind fun source =>
          (Command.words spec.command).bind fun command =>
            (Mapping.ofDatum config.mapping.toDatum).bind fun mapping =>
              spec.id.needId.map fun id =>
                registrationOf config launcher registry spec
                  (spec.client config launcher source command mapping id) := by
  rw [registerSpec, ServerSpec.resolve]
  by_cases hsame : spec.id.same spec.sourceId
  · rw [if_pos hsame, if_pos hsame]
    rfl
  · rw [if_neg hsame, if_neg hsame]
    by_cases himage : spec.image.isTruthy && !spec.containerName.isTruthy
    · rw [if_pos himage, if_pos himage]
      rfl
    · rw [if_neg himage, if_neg himage]
      have hbinding : ¬ (binding config launcher (spec.settled config)).id.same
          (binding config launcher (spec.settled config)).sourceId := hsame
      change (binding config launcher (spec.settled config)).register registry = _
      rw [Binding.register, Binding.client_eq, if_neg hbinding]
      simp only [map_bind_eq, map_map_eq]
      rfl

/-- **What a success tells**: every check came to something, and the client is made of that. -/
lemma exists_of_registerSpec (h : registerSpec config launcher registry spec = .ok registration) :
    (spec.image.isTruthy → spec.containerName.isTruthy)
      ∧ ∃ source command mapping id, registry.requireNamed spec.sourceId = .ok source
        ∧ Command.words spec.command = .ok command
        ∧ Mapping.ofDatum config.mapping.toDatum = .ok mapping
        ∧ spec.id.needId = .ok id
        ∧ registration = registrationOf config launcher registry spec
            (spec.client config launcher source command mapping id) := by
  rw [registerSpec_eq] at h
  split_ifs at h with hsame himage
  obtain ⟨source, hsource, h⟩ := bind_eq_ok_iff.1 h
  obtain ⟨command, hcommand, h⟩ := bind_eq_ok_iff.1 h
  obtain ⟨mapping, hmapping, h⟩ := bind_eq_ok_iff.1 h
  refine ⟨fun hi => ?_, source, command, mapping, ?_⟩
  · by_contra hname
    exact himage (by simp [hi, hname])
  · obtain ⟨id, hid, rfl⟩ := map_eq_ok_iff.1 h
    exact ⟨id, hsource, hcommand, hmapping, hid, rfl⟩

/-- A success registers its client, and nothing else. -/
lemma registry_of_registerSpec
    (h : registerSpec config launcher registry spec = .ok registration) :
    registration.registry = registry.register registration.client := by
  obtain ⟨-, source, command, mapping, id, -, -, -, -, rfl⟩ := exists_of_registerSpec h
  rfl

/-! ## What one specification does -/

/-- A specification that succeeds. -/
lemma fillSpec_of_ok
    (h : registerSpec config launcher progress.holdings.registry spec = .ok registration) :
    fillSpec config launcher progress spec = (progress.succeed registration, none) := by
  rw [fillSpec, h]

/-- A failure of the library's own is passed over. -/
lemma fillSpec_of_own
    (h : registerSpec config launcher progress.holdings.registry spec = .error failure)
    (hown : failure.isOwn) :
    fillSpec config launcher progress spec = progress.skip spec.id failure := by
  rw [fillSpec, h]
  exact if_pos hown

/-- Any other failure ends the filling. -/
lemma fillSpec_of_foreign
    (h : registerSpec config launcher progress.holdings.registry spec = .error failure)
    (hown : ¬ failure.isOwn) :
    fillSpec config launcher progress spec = (progress, some failure) := by
  rw [fillSpec, h]
  exact if_neg hown

/-- Passing over a specification leaves everything registered as it is. -/
@[simp] lemma Progress.holdings_skip (progress : Progress) (id : Datum) (failure : Failure) :
    (progress.skip id failure).1.holdings = progress.holdings := by
  rw [skip]
  split <;> rfl

/-- Nor does it change what is reported as registered. -/
@[simp] lemma Progress.registered_skip (progress : Progress) (id : Datum) (failure : Failure) :
    (progress.skip id failure).1.report.registered = progress.report.registered := by
  rw [skip]
  split <;> rfl

/-- **A specification that fails registers nothing**, whatever the failure is. -/
lemma fillSpec_of_error
    (h : registerSpec config launcher progress.holdings.registry spec = .error failure) :
    (fillSpec config launcher progress spec).1.holdings = progress.holdings
      ∧ (fillSpec config launcher progress spec).1.report.registered
          = progress.report.registered := by
  by_cases hown : failure.isOwn
  · rw [fillSpec_of_own h hown]
    exact ⟨progress.holdings_skip _ _, progress.registered_skip _ _⟩
  · rw [fillSpec_of_foreign h hown]
    exact ⟨rfl, rfl⟩

/-! ## Runs -/

variable {specs others : List ServerSpec}

/-- A run goes on where its first specification leaves off. -/
lemma fillSpecs_cons_of_none {next : Progress}
    (h : fillSpec config launcher progress spec = (next, none)) (rest : List ServerSpec) :
    fillSpecs config launcher progress (spec :: rest) = fillSpecs config launcher next rest := by
  rw [fillSpecs, h]

/-- A run that comes to its end comes past its first specification. -/
lemma exists_of_fillSpecs_cons
    (h : fillSpecs config launcher progress (spec :: specs) = (last, none)) :
    ∃ next, fillSpec config launcher progress spec = (next, none)
      ∧ fillSpecs config launcher next specs = (last, none) := by
  rw [fillSpecs] at h
  split at h
  · rename_i next hstep
    exact ⟨next, hstep, h⟩
  · exact absurd (congrArg Prod.snd h) (Option.some_ne_none _)

/-- **Runs can be joined.** -/
lemma fillSpecs_append_of_none (h : fillSpecs config launcher progress specs = (last, none))
    (others : List ServerSpec) :
    fillSpecs config launcher progress (specs ++ others)
      = fillSpecs config launcher last others := by
  induction specs generalizing progress with
  | nil =>
      obtain rfl : progress = last := congrArg Prod.fst h
      rfl
  | cons spec rest ih =>
      obtain ⟨next, hstep, hrest⟩ := exists_of_fillSpecs_cons h
      rw [List.cons_append, fillSpecs_cons_of_none hstep]
      exact ih hrest

/-- **What every specification keeps, a run keeps**, whether or not it comes to its end. -/
lemma kept_fillSpecs {motive : Progress → Prop}
    (hstep : ∀ progress, ∀ spec ∈ specs, motive progress →
      motive (fillSpec config launcher progress spec).1)
    (h : motive progress) : motive (fillSpecs config launcher progress specs).1 := by
  induction specs generalizing progress with
  | nil => exact h
  | cons spec rest ih =>
      have hnext := hstep progress spec List.mem_cons_self h
      rw [fillSpecs]
      split
      · rename_i next heq
        rw [heq] at hnext
        exact ih (fun progress later hl => hstep progress later (List.mem_cons_of_mem _ hl)) hnext
      · rename_i next failure heq
        rw [heq] at hnext
        exact hnext

/-- **A specification that succeeds**, with the client that it registers. -/
structure Success where
  /-- the specification -/
  spec : ServerSpec
  /-- its client -/
  client : Client

/-- **The specifications that succeed at their turn**, in order: each one finds what those before it
have registered. -/
def successes (config : CatalogConfig) (launcher : Launcher) :
    Registry → List ServerSpec → List Success
  | _, [] => []
  | registry, spec :: rest =>
    match registerSpec config launcher registry spec with
    | .ok registration =>
      ⟨spec, registration.client⟩ :: successes config launcher registration.registry rest
    | .error _ => successes config launcher registry rest

/-- **The last success for an id.** -/
def lastSuccess? (config : CatalogConfig) (launcher : Launcher) (registry : Registry)
    (specs : List ServerSpec) (id : ClientId) : Option Success :=
  (successes config launcher registry specs).reverse.find? (·.client.id.key == id.key)

lemma successes_cons_of_ok (h : registerSpec config launcher registry spec = .ok registration) :
    successes config launcher registry (spec :: specs)
      = ⟨spec, registration.client⟩ :: successes config launcher registration.registry specs := by
  rw [successes, h]

lemma successes_cons_of_error (h : registerSpec config launcher registry spec = .error failure) :
    successes config launcher registry (spec :: specs)
      = successes config launcher registry specs := by
  rw [successes, h]

/-- A success is one: there is a registry at which its specification registers its client. -/
lemma exists_registerSpec_of_mem {success : Success}
    (h : success ∈ successes config launcher registry specs) :
    ∃ turn registration, registerSpec config launcher turn success.spec = .ok registration
      ∧ registration.client = success.client := by
  induction specs generalizing registry with
  | nil => exact absurd h List.not_mem_nil
  | cons spec rest ih =>
      cases hspec : registerSpec config launcher registry spec with
      | error failure =>
          rw [successes_cons_of_error hspec] at h
          exact ih h
      | ok registration =>
          rw [successes_cons_of_ok hspec] at h
          rcases List.mem_cons.1 h with rfl | hrest
          · exact ⟨registry, registration, hspec, rfl⟩
          · exact ih hrest

/-- **A run registers the clients of its successes**, one after the other. -/
theorem registry_fillSpecs (h : fillSpecs config launcher progress specs = (last, none)) :
    last.holdings.registry = progress.holdings.registry.registerAll
      ((successes config launcher progress.holdings.registry specs).map Success.client) := by
  induction specs generalizing progress with
  | nil =>
      obtain rfl : progress = last := congrArg Prod.fst h
      rfl
  | cons spec rest ih =>
      obtain ⟨next, hstep, hrest⟩ := exists_of_fillSpecs_cons h
      cases hspec : registerSpec config launcher progress.holdings.registry spec with
      | error failure =>
          have hnext : next.holdings = progress.holdings := by
            rw [← (fillSpec_of_error hspec).1, hstep]
          rw [successes_cons_of_error hspec, ← hnext]
          exact ih hrest
      | ok registration =>
          rw [fillSpec_of_ok hspec, Prod.mk.injEq] at hstep
          obtain ⟨rfl, -⟩ := hstep
          rw [successes_cons_of_ok hspec, ih hrest, List.map_cons]
          have hregistry : (progress.succeed registration).holdings.registry
              = progress.holdings.registry.register registration.client :=
            registry_of_registerSpec hspec
          rw [registry_of_registerSpec hspec, hregistry]
          rfl

end Catalog

/-! ## What is reported as registered -/

/-- An id is reported once a specification for it succeeds. -/
lemma Report.hasRegistered_succeed (report : Report) (id d : ClientId) :
    (report.succeed id).hasRegistered d ↔ id.key = d.key ∨ report.hasRegistered d := by
  by_cases h : report.hasRegistered id
  · have hsame : (report.succeed id).registered = report.registered := if_pos h
    rw [hasRegistered, hsame, ← hasRegistered]
    refine (or_iff_right_of_imp fun hkey => ?_).symm
    rw [hasRegistered, ← hkey]
    exact h
  · have hmore : (report.succeed id).registered = report.registered ++ [id] := if_neg h
    rw [hasRegistered, hmore, List.any_append, Bool.or_eq_true, or_comm]
    simp [hasRegistered]

namespace Catalog

variable {config : CatalogConfig} {launcher : Launcher} {progress last : Progress}
  {specs : List ServerSpec}

/-- **A run reports the ids of its successes**, beside those that were reported before. -/
theorem hasRegistered_fillSpecs (h : fillSpecs config launcher progress specs = (last, none))
    (id : ClientId) :
    last.report.hasRegistered id
      ↔ (lastSuccess? config launcher progress.holdings.registry specs id).isSome
        ∨ progress.report.hasRegistered id := by
  rw [lastSuccess?, List.find?_isSome]
  simp only [List.mem_reverse, beq_iff_eq]
  induction specs generalizing progress with
  | nil =>
      obtain rfl : progress = last := congrArg Prod.fst h
      simp [successes]
  | cons spec rest ih =>
      obtain ⟨next, hstep, hrest⟩ := exists_of_fillSpecs_cons h
      rw [ih hrest]
      cases hspec : registerSpec config launcher progress.holdings.registry spec with
      | error failure =>
          obtain ⟨hholdings, hregistered⟩ := fillSpec_of_error hspec
          rw [hstep] at hholdings hregistered
          rw [successes_cons_of_error hspec, hholdings, Report.hasRegistered, hregistered]
          rfl
      | ok registration =>
          rw [fillSpec_of_ok hspec, Prod.mk.injEq] at hstep
          obtain ⟨rfl, -⟩ := hstep
          have hreport : (progress.succeed registration).report
              = progress.report.succeed registration.client.id := rfl
          have hholdings : (progress.succeed registration).holdings.registry
              = registration.registry := rfl
          rw [successes_cons_of_ok hspec, hreport, hholdings, Report.hasRegistered_succeed]
          simp only [List.exists_mem_cons_iff]
          exact or_left_comm.trans or_assoc.symm

/-- **The client of a reported id is that of the last success for it.** -/
theorem get?_fillSpecs_of_hasRegistered
    (h : fillSpecs config launcher progress specs = (last, none)) {id : ClientId}
    (hnew : ¬ progress.report.hasRegistered id) (hid : last.report.hasRegistered id) :
    ∃ success, lastSuccess? config launcher progress.holdings.registry specs id = some success
      ∧ last.holdings.registry.get? id = some success.client := by
  obtain ⟨success, hsuccess⟩ := Option.isSome_iff_exists.1
    (((hasRegistered_fillSpecs h id).1 hid).resolve_right hnew)
  refine ⟨success, hsuccess, ?_⟩
  rw [registry_fillSpecs h, Registry.get?_registerAll, ← List.map_reverse, List.find?_map]
  rw [lastSuccess?] at hsuccess
  rw [show (fun client : Client => client.id.key == id.key) ∘ Success.client
    = fun success => success.client.id.key == id.key from rfl, hsuccess]
  rfl

/-- **A filling that comes to its end** has loaded the packages, has specifications, and has come
through all of them. -/
lemma exists_of_fill {around : Surroundings} {options : LoadOptions} {holdings : Holdings}
    (h : fill around options launcher config holdings = (last, none)) :
    ∃ specs packages, config.specs = .ok specs
      ∧ fillSpecs config launcher
          ⟨(loadNamed around options holdings config.packages).holdings, { packages },
            (loadNamed around options holdings config.packages).log⟩ specs = (last, none) := by
  rw [fill] at h
  split at h
  · exact absurd (congrArg Prod.snd h) (Option.some_ne_none _)
  · exact absurd (congrArg Prod.snd h) (Option.some_ne_none _)
  · rename_i packages specs hpackages hspecs
    exact ⟨specs, packages, hspecs, h⟩

/-! ## A small configuration -/

/-- Only the bundled packages are installed. -/
def bundledOnly : Surroundings := ⟨.empty, ⟨bundledPackages, [], .ok []⟩⟩

/-- A configuration that loads the bundled package for Go. -/
def goOnly (specs : List ServerSpec) : CatalogConfig where
  mapping := [⟨"/h", "/c"⟩]
  image := .text "img"
  containerName := .text "box"
  priority := .whole 10
  packages := [.text "go"]
  specs := .ok specs
  mapping_ne_nil := List.cons_ne_nil _ _

/-- Filling an empty registry with it. -/
def filledWith (specs : List ServerSpec) : Progress × Option Failure :=
  fill bundledOnly {} .standard (goOnly specs) .initial

end Catalog

end ContainerClients
