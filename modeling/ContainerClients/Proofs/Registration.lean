import ContainerClients.Proofs.FillingReport
import ContainerClients.Session

/-!
# A registration touches one id

Everything that can go wrong with a container client comes before the one change of the registry, so
a registration that fails leaves no trace.  One that succeeds puts its client under its own id, in
the place of the client that was there or at the end, and leaves all else as it is.  Nothing is
started, and no number is drawn, before the client is connected.

The same holds of a filling, specification by specification: the turns of a filling that comes to
its end say for which ids there was a success, and every other id keeps the client that it had when
the packages were loaded.

* `Registry.ChangedAt` — two registries that differ in the client of one id.
* `Registry.changedAt_register` — registering a client makes such a change.
* `Binding.register_eq_ok`, `Binding.field?_of_ofArguments` — the id of the client is the one that
  was given.
* `World.Registers` — what registering a container client comes to;
  `World.registers_registerContainer` — it always does.
* `Catalog.Progress.Follows.get?_eq_of_not` — what a filling leaves as it was.
* **`registration_changes_one_id`** — a registration, and what a filling leaves as it was.
-/

namespace ContainerClients

open ContainerClients.Container

/-- A launcher reports that it is asked for a command. -/
def Event.isLaunch : Event → Bool
  | .launching .. | .attaching .. => true
  | _ => false

/-! ## One change of a registry -/

/-- The ids of places, when one more client is put among them. -/
lemma map_id_putClient (client : Client) (places : List Place) :
    (putClient client places).map (·.id)
      = if client.id.key ∈ places.map Place.key then places.map (·.id)
        else places.map (·.id) ++ [client.id] := by
  induction places with
  | nil => rfl
  | cons place rest ih =>
      rw [putClient]
      by_cases hp : place.key = client.id.key
      · rw [dif_pos hp, if_pos (List.mem_map.2 ⟨place, List.mem_cons_self, hp⟩)]
        rfl
      · have hne : ¬ client.id.key = place.key := fun h => hp h.symm
        rw [dif_neg hp, List.map_cons, List.map_cons, ih]
        by_cases hmem : client.id.key ∈ rest.map Place.key
        · rw [if_pos hmem, if_pos (List.mem_cons_of_mem _ hmem)]
          rfl
        · rw [if_neg hmem, if_neg (List.not_mem_cons_of_ne_of_not_mem hne hmem)]
          rfl

namespace Registry

/-- A registry contains an id when one of its places has the key of it. -/
lemma contains_iff {registry : Registry} {id : ClientId} :
    registry.contains id ↔ id.key ∈ registry.places.map Place.key := by
  rw [contains, get?, Option.isSome_map, List.find?_isSome]
  simp [List.mem_map]

/-- **Two registries differ in the client of one id.** -/
structure ChangedAt (before after : Registry) (client : Client) : Prop where
  /-- the client stands under its id, and every other id has the client that it had -/
  get?_eq : ∀ id, after.get? id
    = if id.key = client.id.key then some client else before.get? id
  /-- the ids keep their order, and an id that is new goes to the end -/
  ids_eq : after.places.map (·.id)
    = if before.contains client.id then before.places.map (·.id)
      else before.places.map (·.id) ++ [client.id]

/-- **Registering a client changes its own id only.** -/
lemma changedAt_register (registry : Registry) (client : Client) :
    registry.ChangedAt (registry.register client) client where
  get?_eq := registry.get?_register client
  ids_eq := by
    rw [register, map_id_putClient]
    simp only [contains_iff]

end Registry

/-! ## The client of a registration -/

namespace Binding

variable {binding : Binding} {registry : Registry} {registration : Registration}

/-- **A registration registers its client**, which has the id of the binding. -/
lemma register_eq_ok (h : binding.register registry = .ok registration) :
    binding.id.needId = .ok registration.client.id
      ∧ registration.registry = registry.register registration.client
      ∧ registration.log = binding.log registry registration.client := by
  obtain ⟨source, command, mapping, id, -, -, -, hid, hclient, hregistry, hlog⟩ :=
    exists_of_register h
  refine ⟨?_, hregistry, hlog⟩
  rw [hclient]
  exact hid

/-- The id of a binding is the one that was given. -/
lemma field?_of_ofArguments {arguments : List (String × Datum)} {launcher : Launcher}
    (h : ofArguments arguments launcher = .ok binding) :
    Datum.field? "docker_server_id" arguments = some binding.id := by
  rw [ofArguments] at h
  split at h
  · contradiction
  · obtain ⟨sourceId, -, h⟩ := bind_eq_ok_iff.1 h
    obtain ⟨id, hid, h⟩ := bind_eq_ok_iff.1 h
    obtain ⟨command, -, h⟩ := bind_eq_ok_iff.1 h
    obtain ⟨mounts, -, h⟩ := bind_eq_ok_iff.1 h
    obtain ⟨containerName, -, h⟩ := bind_eq_ok_iff.1 h
    obtain ⟨image, -, h⟩ := bind_eq_ok_iff.1 h
    obtain ⟨priority, -, h⟩ := bind_eq_ok_iff.1 h
    obtain rfl := Except.ok.inj h
    dsimp only at hid
    cases hgiven : Datum.field? "docker_server_id" arguments with
    | none =>
        rw [hgiven] at hid
        contradiction
    | some given =>
        rw [hgiven] at hid
        rw [Except.ok.inj hid]

/-- Registering reports nothing of a launcher. -/
lemma isLaunch_of_mem_log {client : Client} {event : Event}
    (h : event ∈ binding.log registry client) : event.isLaunch = false := by
  rw [log, List.mem_append, List.mem_singleton] at h
  rcases h with hreplaced | rfl
  · rw [Registry.registrationLog] at hreplaced
    split at hreplaced
    · rw [List.mem_singleton.1 hreplaced]
      rfl
    · exact absurd hreplaced List.not_mem_nil
  · rfl

end Binding

namespace World

/-- **What registering a container client comes to**, whatever is registered and whatever the
arguments are. -/
structure Registers (world : World) (arguments : List (String × Datum)) (result : StepResult) :
    Prop where
  /-- no number is drawn -/
  counters_eq : result.world.counters = world.counters
  /-- no launcher is asked -/
  calls_eq : result.calls = []
  /-- and none reports anything -/
  not_isLaunch : ∀ event ∈ result.log, event.isLaunch = false
  /-- it fails and leaves all as it is, or answers with a client of the id that was given, and
  changes the registry in the client of this id only -/
  fails_or_changes :
    (∃ failure, result.answer = .error failure ∧ result.world = world)
      ∨ ∃ d client, Datum.field? "docker_server_id" arguments = some d
          ∧ d.needId = .ok client.id
          ∧ result.answer = .ok (.client client)
          ∧ world.registry.ChangedAt result.world.registry client

/-- **Registering a container client** does that. -/
lemma registers_registerContainer (world : World) (slot : Option String) (launcher : Launcher)
    (arguments : List (String × Datum)) :
    world.Registers arguments (world.registerContainer slot launcher arguments) := by
  generalize hresult : world.registerContainer slot launcher arguments = result
  rw [registerContainer] at hresult
  cases hregister : (Binding.ofArguments arguments launcher).bind (·.register world.registry) with
  | error failure =>
      rw [hregister] at hresult
      obtain rfl : world.answering (.error failure) = result := hresult
      exact ⟨rfl, rfl, fun event hevent => absurd hevent List.not_mem_nil, .inl ⟨failure, rfl, rfl⟩⟩
  | ok registration =>
      obtain ⟨binding, hbinding, hregistered⟩ := bind_eq_ok_iff.1 hregister
      obtain ⟨hid, hregistry, hlog⟩ := Binding.register_eq_ok hregistered
      rw [hregister] at hresult
      obtain rfl := hresult
      refine ⟨counters_keep _ _ _, rfl, fun event hevent => ?_, .inr ⟨binding.id,
        registration.client, Binding.field?_of_ofArguments hbinding, hid, rfl, ?_⟩⟩
      · have hreported : event ∈ registration.log := hevent
        rw [hlog] at hreported
        exact Binding.isLaunch_of_mem_log hreported
      · rw [registry_keep]
        change world.registry.ChangedAt registration.registry registration.client
        rw [hregistry]
        exact world.registry.changedAt_register registration.client

end World

/-! ## What a filling leaves as it was -/

namespace Catalog

variable {config : CatalogConfig} {launcher : Launcher} {start : Registry} {progress : Progress}
  {past : List Turn} {id : ClientId}

/-- **An id without a success keeps its client.** -/
lemma Progress.Follows.get?_eq_of_not (h : progress.Follows start past)
    (hid : ∀ each ∈ past, each.succeedsFor id = false) :
    progress.holdings.registry.get? id = start.get? id := by
  have hnone : Turn.last? (·.succeedsFor id) past = none := by
    rw [Turn.last?, List.find?_eq_none]
    exact fun each heach => Bool.eq_false_iff.1 (hid each (List.mem_reverse.1 heach))
  rw [h.get?_eq, hnone]
  rfl

/-- A turn is that of one of the specifications. -/
lemma spec_mem_of_mem_turns {registry : Registry} {specs : List ServerSpec} {each : Turn}
    (h : each ∈ turns config launcher registry specs) : each.spec ∈ specs := by
  induction specs generalizing registry with
  | nil => exact absurd h List.not_mem_nil
  | cons spec rest ih =>
      rcases List.mem_cons.1 h with rfl | hrest
      · exact List.mem_cons_self
      · exact List.mem_cons_of_mem _ (ih hrest)

/-- No turn succeeds for an id that no specification is for. -/
lemma succeedsFor_eq_false_of_mem_turns {registry : Registry} {specs : List ServerSpec}
    (hid : ∀ spec ∈ specs, ∀ own, ClientId.ofDatum? spec.id = some own → own.key ≠ id.key) :
    ∀ each ∈ turns config launcher registry specs, each.succeedsFor id = false := by
  intro each heach
  rw [Turn.succeedsFor, Turn.isFor, Bool.and_eq_false_iff]
  right
  cases hown : ClientId.ofDatum? each.spec.id with
  | none => rfl
  | some own => simpa using hid each.spec (spec_mem_of_mem_turns heach) own hown

end Catalog

/-- **A registration changes one id**, and a filling only those with a success.

* Registering a container client starts nothing and draws no number.  It fails and leaves all as it
  is, or it answers with a client of the id that was given, and changes the client of this id only.
* A filling that comes to its end leaves every id without a success as it was when the packages were
  loaded, and in particular every id that no specification is for. -/
theorem registration_changes_one_id :
    (∀ (world : World) (slot : Option String) (launcher : Launcher)
        (arguments : List (String × Datum)),
      world.Registers arguments (world.registerContainer slot launcher arguments))
    ∧ ∀ (around : Surroundings) (options : LoadOptions) (launcher : Launcher)
        (config : CatalogConfig) (holdings : Holdings) (progress : Catalog.Progress),
      Catalog.fill around options launcher config holdings = (progress, none) →
      let loaded := (Catalog.loadNamed around options holdings config.packages).holdings.registry
      ∃ specs, config.specs = .ok specs
        ∧ (∀ id, (∀ each ∈ Catalog.turns config launcher loaded specs,
              each.succeedsFor id = false) →
            progress.holdings.registry.get? id = loaded.get? id)
        ∧ ∀ id, (∀ spec ∈ specs, ∀ own, ClientId.ofDatum? spec.id = some own →
              own.key ≠ id.key) →
            progress.holdings.registry.get? id = loaded.get? id := by
  refine ⟨World.registers_registerContainer, ?_⟩
  intro around options launcher config holdings progress hfill loaded
  obtain ⟨specs, hspecs, hfollows⟩ := Catalog.exists_follows_of_fill hfill
  refine ⟨specs, hspecs, fun id hid => hfollows.get?_eq_of_not hid, fun id hid => ?_⟩
  exact hfollows.get?_eq_of_not (Catalog.succeedsFor_eq_false_of_mem_turns hid)

/-- A client on the host stays as it was loaded, when container clients are made from it and from
each other. -/
theorem registration_changes_one_id_chained :
    let loaded :=
      (Catalog.loadNamed Catalog.bundledOnly {} .initial [.text "go"]).holdings.registry
    (Catalog.filledWith Catalog.chainedSpecs).2 = none
      ∧ loaded.contains (.text "gopls") = true
      ∧ (Catalog.filledWith Catalog.chainedSpecs).1.holdings.registry.get? (.text "gopls")
        = loaded.get? (.text "gopls") := by
  have hending : (Catalog.filledWith Catalog.chainedSpecs).2 = none := rfl
  obtain ⟨specs, hspecs, -, hothers⟩ :=
    registration_changes_one_id.2 _ _ _ _ _ _ (Prod.ext rfl hending)
  obtain rfl := Except.ok.inj hspecs
  refine ⟨hending, rfl, hothers (.text "gopls") fun spec hspec own hown => ?_⟩
  simp only [Catalog.chainedSpecs, List.mem_cons, List.not_mem_nil, or_false] at hspec
  rcases hspec with rfl | rfl | rfl | rfl <;>
    · obtain rfl := Option.some.inj hown
      simp

end ContainerClients
