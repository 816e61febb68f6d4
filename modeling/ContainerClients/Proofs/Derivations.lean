import ContainerClients.Client.Binding
import ContainerClients.Proofs.Success

/-!
# What a container client is made of

A container client is a copy of another client with everything replaced but the files that it is
for.  Command, priority, translation, activation and connection are each made anew from the own
binding and the own launcher, so a container client that is made from a container client translates
nothing twice, is not started in a container within a container, and is not held back by the
activation of the client that it is made from.

* `Client.IsMadeBy` — a client is the container client that a derivation makes.
* `Client.IsOnHost` — a client of a server on the host; no container client is one.
* `Client.IsDerived` — what a container client has from the client that its chain starts from, and
  what from its own derivation.
* `Client.inContainer_inContainer` — deriving once more absorbs what was derived before.
* `Binding.client_eq_ok_iff` — the checks of a binding, and what its client is made of.
* **`Binding.exists_derivation`** — what a binding registers is derived by the binding alone, from
  the client under the id that it names.
-/

namespace ContainerClients

open ContainerClients.Container

namespace Client

variable {client origin source other : Client} {own : Derivation}

/-- **A client is made by a derivation**: it is the container client of some client. -/
def IsMadeBy (client : Client) (own : Derivation) : Prop :=
  ∃ source : Client, client = source.inContainer own

lemma isMadeBy_inContainer (source : Client) (own : Derivation) :
    (source.inContainer own).IsMadeBy own := ⟨source, rfl⟩

/-- **A client of a server on the host**: it has its own id, files, command and priority, and the
defaults in all else. -/
def IsOnHost (client : Client) : Prop :=
  client = .onHost client.id client.extensions client.command client.priority

lemma isOnHost_onHost (id : ClientId) (extensions command : List String) (priority : Datum) :
    (onHost id extensions command priority).IsOnHost := rfl

/-- Such a client has no activation of its own, -/
lemma IsOnHost.isRestricted_eq (h : client.IsOnHost) : client.isRestricted = false := by
  rw [h]
  rfl

/-- and a container client has one. -/
lemma not_isOnHost_inContainer (source : Client) (own : Derivation) :
    ¬ (source.inContainer own).IsOnHost :=
  fun h => Bool.false_ne_true h.isRestricted_eq.symm

/-- **A client is derived** from the client that its chain starts from, by its own derivation. -/
structure IsDerived (client origin : Client) (own : Derivation) : Prop where
  /-- it has the id of its own -/
  id_eq : client.id = own.id
  /-- it is for the files that the start of the chain is for -/
  extensions_eq : client.extensions = origin.extensions
  /-- its command is its own -/
  command_eq : client.command = own.command
  /-- and so is its priority -/
  priority_eq : client.priority = own.priority
  /-- it names files by its own mounts, -/
  toUri_eq : client.toUri = own.mapping.toContainerUri
  /-- reads names by its own mounts and its own container, -/
  toPath_eq : client.toPath = own.mapping.toHostPath own.containerName.shown
  /-- and asks its own launcher about its own command -/
  connect_eq : ∀ env counters,
    client.connect env counters = .ofLaunched (own.launcher.launch env counters own.request)
  /-- it is activated by the files that the start of the chain handles and its own mounts cover -/
  isActivated_eq : ∀ path,
    client.isActivated path = .ok (origin.handles path && own.mapping.covers path)

/-- **Clients for the same files have the same container client**, whatever else they are. -/
lemma inContainer_congr (h : source.extensions = other.extensions) (own : Derivation) :
    source.inContainer own = other.inContainer own := by
  rw [inContainer, inContainer, h]

/-- **Deriving once more absorbs what was derived before.** -/
lemma inContainer_inContainer (source : Client) (first own : Derivation) :
    (source.inContainer first).inContainer own = source.inContainer own :=
  inContainer_congr rfl own

lemma isActivated_inContainer (source : Client) (own : Derivation) (path : String) :
    (source.inContainer own).isActivated path
      = .ok (source.handles path && own.mapping.covers path) := by
  have hhandles : (source.inContainer own).handles path = source.handles path := rfl
  rw [isActivated, hhandles]
  cases source.handles path <;> rfl

lemma isDerived_inContainer (source : Client) (own : Derivation) :
    (source.inContainer own).IsDerived source own where
  id_eq := rfl
  extensions_eq := rfl
  command_eq := rfl
  priority_eq := rfl
  toUri_eq := rfl
  toPath_eq := rfl
  connect_eq _ _ := rfl
  isActivated_eq := source.isActivated_inContainer own

end Client

/-! ## What a binding registers -/

/-- A client that has to be there is the one under its id. -/
lemma Registry.get?_of_require {registry : Registry} {id : ClientId} {client : Client}
    (h : registry.require id = .ok client) : registry.get? id = some client := by
  rw [require] at h
  split at h
  · rename_i found hfound
    obtain rfl := Except.ok.inj h
    exact hfound
  · obtain ⟨ids, -, hthrow⟩ := bind_eq_ok_iff.1 h
    contradiction

namespace Binding

variable {binding : Binding} {registry : Registry} {client : Client} {registration : Registration}

/-- **The client of a binding**: the two ids differ, and the container client of the client under
the one is made as the binding says. -/
lemma client_eq_ok_iff :
    binding.client registry = .ok client ↔ binding.id.same binding.sourceId = false
      ∧ ∃ source own, registry.requireNamed binding.sourceId = .ok source
        ∧ binding.derivation = .ok own ∧ client = source.inContainer own := by
  rw [Binding.client]
  cases hsame : binding.id.same binding.sourceId with
  | true => exact iff_of_false nofun fun h => Bool.false_ne_true h.1.symm
  | false =>
    simp only [Bool.false_eq_true, ↓reduceIte, true_and]
    constructor
    · intro h
      obtain ⟨source, hsource, h⟩ := bind_eq_ok_iff.1 h
      obtain ⟨own, hown, h⟩ := bind_eq_ok_iff.1 h
      exact ⟨source, own, hsource, hown, (Except.ok.inj h).symm⟩
    · rintro ⟨source, own, hsource, hown, rfl⟩
      exact bind_eq_ok_iff.2 ⟨source, hsource, bind_eq_ok_iff.2 ⟨own, hown, rfl⟩⟩

/-- **What a binding registers is derived** by the binding alone, from the client under the id that
it names. -/
theorem exists_derivation (h : binding.register registry = .ok registration) :
    ∃ sourceId source own, binding.sourceId.needId = .ok sourceId
      ∧ registry.get? sourceId = some source
      ∧ binding.derivation = .ok own
      ∧ registration.client = source.inContainer own
      ∧ registration.registry = registry.register registration.client := by
  obtain ⟨client, hclient, rfl⟩ := map_eq_ok_iff.1 h
  obtain ⟨-, source, own, hsource, hown, rfl⟩ := client_eq_ok_iff.1 hclient
  obtain ⟨sourceId, hsourceId, hrequired⟩ := bind_eq_ok_iff.1 hsource
  exact ⟨sourceId, source, own, hsourceId, Registry.get?_of_require hrequired, hown, rfl, rfl⟩

end Binding

end ContainerClients
