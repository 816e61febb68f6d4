import ContainerClients.Proofs.Connection
import ContainerClients.Proofs.Filling

/-!
# The command that a registered client is started with

Between a specification and the words that start its server lie the defaults of the configuration,
the client that is registered, its launcher and the connection.  The words of the command are cut
twice, the mounts are read twice, and the runtime is looked up when the connection is made.  What
comes out in the end is determined by the last specification that succeeds for an id.

* `ServerSpec.Parts`, `ServerSpec.HasParts` — what a specification puts into the command.
* `Catalog.exists_parts_of_registerSpec` — the client of a success holds the parts of its
  specification.
* `Client.connect_fresh`, `Client.connect_attach` — the words of a connection, by its parts.
* **`Catalog.command_of_registered`** — the words that a registered client is started with.
-/

namespace ContainerClients

open ContainerClients.Command ContainerClients.Container

/-! ## The parts of the command -/

/-- **What a specification puts into the command** that starts its server. -/
structure ServerSpec.Parts where
  /-- the mounts -/
  mapping : Mapping
  /-- the image -/
  image : Datum
  /-- the name, or base name, of the container -/
  containerName : Datum
  /-- the words of the server -/
  command : List String

/-- **The parts that a specification has**, with the defaults of a configuration.  The default
container name only ever comes with the default image. -/
structure ServerSpec.HasParts (spec : ServerSpec) (config : CatalogConfig)
    (parts : ServerSpec.Parts) : Prop where
  /-- the mounts of the configuration, read again -/
  mapping_eq : Mapping.ofDatum config.mapping.toDatum = .ok parts.mapping
  /-- the words of the command, cut again -/
  command_eq : ((words spec.command).bind fun command => words (.ofTexts command))
    = .ok parts.command
  /-- both of its own, its own name for the default image, or both defaults -/
  image_containerName :
    (spec.image.isTruthy ∧ spec.containerName.isTruthy
        ∧ parts.image = spec.image ∧ parts.containerName = spec.containerName)
      ∨ (¬ spec.image.isTruthy ∧ spec.containerName.isTruthy
        ∧ parts.image = config.image ∧ parts.containerName = spec.containerName)
      ∨ (¬ spec.image.isTruthy ∧ ¬ spec.containerName.isTruthy
        ∧ parts.image = config.image ∧ parts.containerName = config.containerName)

/-- **A client is started with parts**: its launcher is asked for them. -/
structure Client.StartsWith (client : Client) (launcher : Launcher) (parts : ServerSpec.Parts) :
    Prop where
  /-- its launcher is asked for a container of these mounts, this image and this name -/
  connection_eq : client.connection = .launched launcher
    ⟨parts.containerName, parts.mapping, parts.image, .ofTexts client.command⟩
  /-- the words of its command are the words of the server -/
  command_eq : words (.ofTexts client.command) = .ok parts.command

/-- A value that counts as given stays; one that does not gives way. -/
lemma Datum.orElse_cases (d other : Datum) :
    (d.isTruthy ∧ d.orElse other = d) ∨ (¬ d.isTruthy ∧ d.orElse other = other) := by
  by_cases h : d.isTruthy
  · exact .inl ⟨h, if_pos h⟩
  · exact .inr ⟨h, if_neg h⟩

/-- **The client of a success is started with the parts of its specification.** -/
lemma Catalog.exists_parts_of_registerSpec {config : CatalogConfig} {launcher : Launcher}
    {registry : Registry} {spec : ServerSpec} {registration : Binding.Registration}
    (h : registerSpec config launcher registry spec = .ok registration) :
    ∃ parts, spec.HasParts config parts ∧ registration.client.StartsWith launcher parts := by
  obtain ⟨hnamed, source, command, mapping, id, -, hcommand, hmapping, -, rfl⟩ :=
    exists_of_registerSpec h
  have hwords : words (.ofTexts command) = .ok (tidy command) := words_ofTexts command
  refine ⟨⟨mapping, spec.image.orElse config.image, spec.containerName.orElse config.containerName,
    tidy command⟩, ⟨hmapping, ?_, ?_⟩, ⟨rfl, hwords⟩⟩
  · rw [hcommand]
    exact hwords
  · rcases spec.image.orElse_cases config.image with ⟨hi, hi'⟩ | ⟨hi, hi'⟩ <;>
      rcases spec.containerName.orElse_cases config.containerName with ⟨hn, hn'⟩ | ⟨hn, hn'⟩
    · exact .inl ⟨hi, hn, hi', hn'⟩
    -- an image of its own without a name of its own is refused
    · exact absurd (hnamed hi) hn
    · exact .inr (.inl ⟨hi, hn, hi', hn'⟩)
    · exact .inr (.inr ⟨hi, hn, hi', hn'⟩)

/-! ## The words of a connection -/

namespace Client.StartsWith

variable {client : Client} {parts : ServerSpec.Parts} {env : Environment} {counter : CounterName}
  {runtime : Datum} {command : List String}

/-- **A connection that starts a container** draws the next number, and has the words of the
runtime, the name with that number, the mounts, the image and the server. -/
lemma connect_fresh (h : client.StartsWith (.fresh counter runtime) parts)
    (hruntime : Command.runtime env runtime = .ok command) (counters : Counters) :
    let identity : Identity := ⟨parts.containerName, (counters.draw counter).1⟩
    (client.connect env counters).argv
        = (if identity.Fits then
            .ok (tidy (startWords command identity.fullName parts.mapping parts.image
              parts.command))
          else .error (.invalidValue .longNumber))
      ∧ (client.connect env counters).counters = (counters.draw counter).2 := by
  intro identity
  rw [connect, h.connection_eq, Connection.connect, Connected.ofLaunched]
  refine ⟨?_, Launcher.counters_fresh counter runtime⟩
  dsimp only
  rw [Launcher.words_fresh, hruntime, h.command_eq]
  change identity.name.bind _ = _
  rw [Identity.name_eq]
  split_ifs <;> rfl

/-- **A connection that enters a container** draws no number, and has the words of the runtime, the
name and the server. -/
lemma connect_attach (h : client.StartsWith (.attach runtime) parts)
    (hruntime : Command.runtime env runtime = .ok command) (counters : Counters) :
    (client.connect env counters).argv
        = .ok (tidy (attachWords command parts.containerName parts.command))
      ∧ (client.connect env counters).counters = counters := by
  rw [connect, h.connection_eq, Connection.connect, Connected.ofLaunched]
  refine ⟨?_, Launcher.counters_attach runtime⟩
  dsimp only
  rw [Launcher.words_attach, hruntime, h.command_eq]
  rfl

end Client.StartsWith

/-! ## The command of a registered client -/

namespace Catalog

/-- **The words that a registered client is started with.**  When the filling of a registry comes to
its end and reports an id as registered, the client under this id is that of the last specification
that succeeds for it, and has the parts of that specification.  Whenever it is connected later, in
any environment in which the runtime can be looked up and wherever the counters stand then:

* a launcher that starts containers draws the next number, and the words are those of the runtime of
  that moment, `run --name NAME-NUMBER --rm -i`, the mounts, the image and the server, tidied;
* a launcher that enters containers draws nothing, and the words are those of the runtime of that
  moment, `exec -i NAME` and the server, tidied.

Only a number with more digits than can be written gives no words. -/
theorem command_of_registered {around : Surroundings} {options : LoadOptions} {launcher : Launcher}
    {config : CatalogConfig} {holdings : Holdings} {progress : Progress} {d : ClientId}
    (hfill : fill around options launcher config holdings = (progress, none))
    (hd : d ∈ progress.report.registered) :
    ∃ specs success parts, config.specs = .ok specs
      ∧ lastSuccess? config launcher
          (loadNamed around options holdings config.packages).holdings.registry specs d
        = some success
      ∧ success.spec.HasParts config parts
      ∧ progress.holdings.registry.get? d = some success.client
      ∧ (∀ counter runtime, launcher = .fresh counter runtime → ∀ env counters words,
          Command.runtime env runtime = .ok words →
          let identity : Identity := ⟨parts.containerName, (counters.draw counter).1⟩
          (success.client.connect env counters).argv
            = (if identity.Fits then
                .ok (tidy (startWords words identity.fullName parts.mapping parts.image
                  parts.command))
              else .error (.invalidValue .longNumber))
          ∧ (success.client.connect env counters).counters = (counters.draw counter).2)
      ∧ (∀ runtime, launcher = .attach runtime → ∀ env counters words,
          Command.runtime env runtime = .ok words →
          (success.client.connect env counters).argv
            = .ok (tidy (attachWords words parts.containerName parts.command))
          ∧ (success.client.connect env counters).counters = counters) := by
  obtain ⟨specs, packages, hspecs, hrun⟩ := exists_of_fill hfill
  have hreported : progress.report.hasRegistered d :=
    List.any_eq_true.2 ⟨d, hd, beq_self_eq_true _⟩
  obtain ⟨success, hlast, hclient⟩ :=
    get?_fillSpecs_of_hasRegistered hrun (by simp [Report.hasRegistered]) hreported
  have hmem : success ∈ successes config launcher _ specs :=
    List.mem_reverse.1 (List.mem_of_find?_eq_some hlast)
  obtain ⟨turn, registration, hturn, hregistration⟩ := exists_registerSpec_of_mem hmem
  obtain ⟨parts, hparts, hstarts⟩ := exists_parts_of_registerSpec hturn
  rw [hregistration] at hstarts
  refine ⟨specs, success, parts, hspecs, hlast, hparts, hclient, ?_, ?_⟩
  · rintro counter runtime rfl env counters words hruntime
    exact hstarts.connect_fresh hruntime counters
  · rintro runtime rfl env counters words hruntime
    exact hstarts.connect_attach hruntime counters

/-- Two specifications for one id, the first with an image and a name of its own. -/
def twoForOne : List ServerSpec :=
  [{ ServerSpec.plain "gopls" "go-box" "gopls serve" with
      image := .text "own", containerName := .text "mine" },
   ServerSpec.plain "gopls" "go-box" "gopls  'a b '"]

/-- The later one is started, with the defaults of the configuration. -/
theorem command_of_registered_later :
    (filledWith twoForOne).2 = none
      ∧ .text "go-box" ∈ (filledWith twoForOne).1.report.registered
      ∧ Command.runtime .empty .null = .ok ["docker"]
      ∧ ∃ client, (filledWith twoForOne).1.holdings.registry.get?
            (.text "go-box") = some client
        ∧ (client.connect .empty {}).argv
            = .ok ["docker", "run", "--name", "box-1", "--rm", "-i", "-v", "/h:/c", "img", "gopls",
                "a b"]
        ∧ (client.connect .empty {}).counters.shared = 2 := by
  have hending : (filledWith twoForOne).2 = none := rfl
  have hreported : .text "go-box"
      ∈ (filledWith twoForOne).1.report.registered :=
    List.mem_singleton.2 rfl
  have hruntime : Command.runtime .empty .null = .ok ["docker"] := rfl
  obtain ⟨specs, success, parts, hspecs, hlast, hparts, hclient, hfresh, -⟩ :=
    command_of_registered (Prod.ext rfl hending) hreported
  obtain ⟨hargv, hcounters⟩ := hfresh .shared .null rfl .empty {} ["docker"] hruntime
  refine ⟨hending, hreported, hruntime, success.client, hclient, ?_, ?_⟩
  · obtain rfl := Except.ok.inj hspecs
    have hspec : success.spec = ServerSpec.plain "gopls" "go-box" "gopls  'a b '" :=
      congrArg Success.spec (Option.some.inj hlast).symm
    have hmapping : parts.mapping = [⟨"/h", "/c"⟩] :=
      Except.ok.inj (hparts.mapping_eq.symm.trans rfl)
    have hcommand : parts.command = ["gopls", "a b"] := by
      have h := hparts.command_eq
      rw [hspec] at h
      exact Except.ok.inj (h.symm.trans rfl)
    have hnames := hparts.image_containerName
    rw [hspec] at hnames
    obtain ⟨-, -, himage, hname⟩ :=
      (hnames.resolve_left fun h => absurd h.1 (by decide)).resolve_left
        fun h => absurd h.2.1 (by decide)
    rw [hmapping, hcommand, himage, hname] at hargv
    have hfits : (Identity.mk (.text "box") 1).Fits := by decide +kernel
    have hfull : (Identity.mk (.text "box") 1).fullName = "box-1" := by decide +kernel
    have hwords : startWords ["docker"] (Identity.mk (.text "box") 1).fullName [⟨"/h", "/c"⟩]
          (.text "img") ["gopls", "a b"]
        = ["docker", "run", "--name", "box-1", "--rm", "-i", "-v", "/h:/c", "img", "gopls",
            "a b"] := by
      rw [hfull]
      rfl
    exact hargv.trans ((if_pos hfits).trans (congrArg (Except.ok ∘ tidy) hwords))
  · rw [hcounters]
    rfl

end Catalog

end ContainerClients
