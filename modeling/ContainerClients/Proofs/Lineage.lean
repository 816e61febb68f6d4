import ContainerClients.Proofs.Derivations
import ContainerClients.Proofs.EveryRun
import Mathlib.Data.List.Induction

/-!
# Containers do not nest

A container client can itself be the source of another one, in chains of any length, and the clients
of a chain can be replaced later.  What is inherited along a chain is only which files the clients
are for; all else belongs to the last binding.  So the two ends of a chain determine its client,
whatever stands between them and whatever is registered later.

* `Act`, `Registry.act`, `Registry.after` — what happens to a registry, and what it comes to.
* `Registry.Chain` — the chain of the client under an id: where it starts, and its bindings.
* `Registry.Chain.found`, `Registry.exists_chain` — a chain leads to a client, which is derived from
  its start by its last binding; and every client has a chain.
* `Registry.Allows` — the acts by clients that are supplied, and by bindings that are asked for.
* `Registry.exists_acts_perform`, `Registry.exists_acts_performAll` — what a step, and a run, do to
  the registry are such acts.
* **`containers_do_not_nest`** — deriving once more absorbs what was derived before, and whatever
  happens, each client is made of the start of its chain and of its own binding.
-/

namespace ContainerClients

open ContainerClients.Container

/-! ## What happens to a registry -/

/-- **What happens to a registry.** -/
inductive Act where
  /-- a client is registered that comes from no binding -/
  | give (client : Client)
  /-- the container client of a binding is registered, if there is one -/
  | bind (binding : Binding)
  /-- all clients are taken out -/
  | reset

namespace Registry

/-- **What an act does.**  A binding without a container client does nothing. -/
def act (registry : Registry) : Act → Registry
  | .give client => registry.register client
  | .bind binding =>
    match binding.register registry with
    | .ok registration => registration.registry
    | .error _ => registry
  | .reset => .empty

/-- **What acts come to**, one after the other, from the empty registry. -/
def after (acts : List Act) : Registry := acts.foldl act .empty

variable {registry : Registry} {acts : List Act} {last : Act} {binding : Binding}
  {registration : Binding.Registration} {id sourceId : ClientId} {client origin source : Client}
  {chain : List Binding} {own : Derivation}

lemma after_concat (acts : List Act) (last : Act) :
    after (acts ++ [last]) = (after acts).act last := List.foldl_append

lemma act_bind_of_ok (h : binding.register registry = .ok registration) :
    registry.act (.bind binding) = registration.registry := by
  rw [act, h]

/-- **An act leaves an id alone** when it registers no client under it. -/
inductive Spares (registry : Registry) (id : ClientId) : Act → Prop
  /-- another id is given a client -/
  | give (client : Client) : id.key ≠ client.id.key → Spares registry id (.give client)
  /-- a binding registers its client under another id -/
  | bind (binding : Binding) (registration : Binding.Registration) :
    binding.register registry = .ok registration → id.key ≠ registration.client.id.key →
    Spares registry id (.bind binding)
  /-- a binding has no container client -/
  | fail (binding : Binding) (failure : Failure) :
    binding.register registry = .error failure → Spares registry id (.bind binding)

lemma Spares.get?_act (h : registry.Spares id last) :
    (registry.act last).get? id = registry.get? id := by
  cases h with
  | give client hkey => rw [act, get?_register, if_neg hkey]
  | bind binding registration hregister hkey =>
    obtain ⟨-, -, -, -, -, -, -, hregistry⟩ := Binding.exists_derivation hregister
    rw [act_bind_of_ok hregister, hregistry, get?_register, if_neg hkey]
  | fail binding failure hfails => rw [act, hfails]

/-! ## Chains -/

/-- **The chain of the client under an id**, after some acts: the client that it starts from, which
comes from no binding, and the bindings that follow, each with the client of the one before as its
source at its turn. -/
inductive Chain : List Act → ClientId → Client → List Binding → Prop
  /-- a client that is given starts a chain -/
  | start (acts : List Act) (client : Client) (id : ClientId) :
    id.key = client.id.key → Chain (acts ++ [.give client]) id client []
  /-- a binding continues the chain of the client that it names as its source -/
  | next {acts : List Act} {binding : Binding} {registration : Binding.Registration}
    {sourceId : ClientId} {origin : Client} {chain : List Binding} (id : ClientId) :
    binding.register (after acts) = .ok registration → binding.sourceId.needId = .ok sourceId →
    Chain acts sourceId origin chain → id.key = registration.client.id.key →
    Chain (acts ++ [.bind binding]) id origin (chain ++ [binding])
  /-- a chain stays as it is, also when one of the clients before its last is replaced -/
  | stay {acts : List Act} {last : Act} {id : ClientId} {origin : Client} {chain : List Binding} :
    (after acts).Spares id last → Chain acts id origin chain →
    Chain (acts ++ [last]) id origin chain

/-- **The client at the end of a chain**: the start itself, or the container client that the last
binding makes of it. -/
def EndsIn (origin : Client) (chain : List Binding) (client : Client) : Prop :=
  (chain = [] ∧ client = origin)
    ∨ ∃ binding own, chain.getLast? = some binding ∧ binding.derivation = .ok own
      ∧ client = origin.inContainer own ∧ client.IsDerived origin own

/-- The client at the end of a chain is for the files that its start is for. -/
lemma EndsIn.extensions_eq (h : EndsIn origin chain client) :
    client.extensions = origin.extensions := by
  rcases h with ⟨-, rfl⟩ | ⟨_, _, -, -, -, hderived⟩
  · rfl
  · exact hderived.extensions_eq

/-- **One more binding absorbs what the bindings before it made.** -/
lemma EndsIn.next (h : EndsIn origin chain source) (hown : binding.derivation = .ok own) :
    EndsIn origin (chain ++ [binding]) (source.inContainer own) := by
  have hsame : source.inContainer own = origin.inContainer own :=
    Client.inContainer_congr h.extensions_eq own
  exact .inr ⟨binding, own, List.getLast?_concat, hown, hsame,
    hsame ▸ Client.isDerived_inContainer origin own⟩

/-- **A chain leads to a client**, which is that at its end; and it is made of acts. -/
theorem Chain.found (h : Chain acts id origin chain) :
    (∃ client, (after acts).get? id = some client ∧ EndsIn origin chain client)
      ∧ Act.give origin ∈ acts ∧ ∀ binding ∈ chain, Act.bind binding ∈ acts := by
  induction h with
  | start acts client id hkey =>
    refine ⟨⟨client, ?_, .inl ⟨rfl, rfl⟩⟩, List.mem_append_right _ List.mem_cons_self, nofun⟩
    rw [after_concat, act, get?_register, if_pos hkey]
  | @next acts binding registration sourceId origin chain id hregister hsourceId _ hkey ih =>
    obtain ⟨⟨source, hsource, hends⟩, hgive, hbind⟩ := ih
    obtain ⟨sourceId', source', own, hsourceId', hsource', hown, hclient, hregistry⟩ :=
      Binding.exists_derivation hregister
    obtain rfl := Except.ok.inj (hsourceId.symm.trans hsourceId')
    obtain rfl := Option.some.inj (hsource.symm.trans hsource')
    refine ⟨⟨source.inContainer own, ?_, hends.next hown⟩, List.mem_append_left _ hgive, ?_⟩
    · rw [after_concat, act_bind_of_ok hregister, hregistry, get?_register, if_pos hkey, hclient]
    · intro other hother
      rcases List.mem_append.1 hother with hbefore | hlast
      · exact List.mem_append_left _ (hbind other hbefore)
      · rw [List.mem_singleton.1 hlast]
        exact List.mem_append_right _ List.mem_cons_self
  | stay hspares _ ih =>
    obtain ⟨⟨client, hclient, hends⟩, hgive, hbind⟩ := ih
    refine ⟨⟨client, ?_, hends⟩, List.mem_append_left _ hgive,
      fun binding hmem => List.mem_append_left _ (hbind binding hmem)⟩
    rw [after_concat, hspares.get?_act, hclient]

/-- **Every client has a chain.**  The induction is on the acts, the last one first. -/
theorem exists_chain (h : (after acts).get? id = some client) :
    ∃ origin chain, Chain acts id origin chain := by
  induction acts using List.reverseRecOn generalizing id client with
  | nil => contradiction
  | append_singleton acts last ih =>
    rw [after_concat] at h
    -- an act that spares the id leaves the client that was there, with its chain
    have hstays (hspares : (after acts).Spares id last) :
        ∃ origin chain, Chain (acts ++ [last]) id origin chain := by
      rw [hspares.get?_act] at h
      obtain ⟨origin, chain, hchain⟩ := ih h
      exact ⟨origin, chain, .stay hspares hchain⟩
    cases last with
    | give given =>
      by_cases hkey : id.key = given.id.key
      · exact ⟨given, [], .start acts given id hkey⟩
      · exact hstays (.give given hkey)
    | bind binding =>
      cases hregister : binding.register (after acts) with
      | error failure => exact hstays (.fail binding failure hregister)
      | ok registration =>
        by_cases hkey : id.key = registration.client.id.key
        · obtain ⟨sourceId, source, -, hsourceId, hsource, -⟩ := Binding.exists_derivation hregister
          obtain ⟨origin, chain, hchain⟩ := ih hsource
          exact ⟨origin, chain ++ [binding], .next id hregister hsourceId hchain hkey⟩
        · exact hstays (.bind binding registration hregister hkey)
    | reset => contradiction

/-! ## Every run is made of acts -/

/-- **An act is allowed** when it gives a client that is supplied, or registers the container client
of a binding that is asked for. -/
def Allows (installed : Installed) (asked : Binding → Prop) : Act → Prop
  | .give client => installed.Supplies client
  | .bind binding => asked binding
  | .reset => True

/-- Coming from a registry by acts that are allowed is an invariant. -/
lemma isInvariant_acts (installed : Installed) (asked : Binding → Prop) (start : Registry) :
    Registry.IsInvariant installed asked fun registry =>
      ∃ acts : List Act, (∀ act ∈ acts, Allows installed asked act)
        ∧ registry = acts.foldl act start where
  empty := ⟨[.reset], by simp [Allows], rfl⟩
  admits := by
    rintro registry client ⟨acts, hacts, rfl⟩ hclient
    refine ⟨acts ++ [.give client], List.forall_mem_append.2 ⟨hacts, ?_⟩, ?_⟩
    · simpa [Allows] using hclient
    · rw [List.foldl_append]
      rfl
  bound := by
    rintro binding registry registration hasked ⟨acts, hacts, rfl⟩ hregister
    refine ⟨acts ++ [.bind binding], List.forall_mem_append.2 ⟨hacts, ?_⟩, ?_⟩
    · simpa [Allows] using hasked
    · rw [List.foldl_append]
      exact (act_bind_of_ok hregister).symm

/-- **What a step does to the registry** are acts, by the bindings that it asks for. -/
theorem exists_acts_perform (world : World) (step : Step) :
    ∃ acts : List Act, (∀ act ∈ acts, Allows world.around.installed (world.Binds step) act)
      ∧ (world.perform step).world.registry = acts.foldl act world.registry :=
  (isInvariant_acts _ _ world.registry).perform ⟨[], nofun, rfl⟩

/-- **What a run comes to** are acts, from the empty registry on. -/
theorem exists_acts_performAll (around : Surroundings) (spawn : Environment → Spawn)
    (steps : List Step) :
    ∃ acts : List Act, (∀ act ∈ acts,
        Allows around.installed ((World.fresh around spawn).BindsAlong steps) act)
      ∧ ((World.fresh around spawn).performAll steps).2.registry = after acts := by
  have hacts := isInvariant_acts (World.fresh around spawn).around.installed
    ((World.fresh around spawn).BindsAlong steps) .empty
  exact hacts.performAll ⟨[], nofun, rfl⟩

end Registry

/-! ## Nothing nests -/

/-- **Containers do not nest.**

* Deriving a container client from one that was derived from a client equals deriving it from that
  client.
* What a binding registers is the container client that its own derivation makes of the client under
  the id that it names, and the derivation does not depend on the registry.
* After any acts, each client that is found has a chain; and each chain leads to the client that its
  last binding makes of its start, whatever stood between the two and whatever was replaced since.
* What any step of the program does to the registry are such acts, by bindings that the step asks
  for and clients that come from none; so the registry of every run is what some acts come to. -/
theorem containers_do_not_nest :
    (∀ (native : Client) (first second : Derivation),
      (native.inContainer first).inContainer second = native.inContainer second)
    ∧ (∀ (binding : Binding) (registry : Registry) (registration : Binding.Registration),
      binding.register registry = .ok registration →
      ∃ sourceId source own, binding.sourceId.needId = .ok sourceId
        ∧ registry.get? sourceId = some source
        ∧ binding.derivation = .ok own
        ∧ registration.client = source.inContainer own
        ∧ registration.registry = registry.register registration.client)
    ∧ (∀ (acts : List Act) (id : ClientId) (client : Client),
      (Registry.after acts).get? id = some client →
      (∃ origin chain, Registry.Chain acts id origin chain)
      ∧ ∀ origin chain, Registry.Chain acts id origin chain →
        Act.give origin ∈ acts ∧ (∀ binding ∈ chain, Act.bind binding ∈ acts)
        ∧ ((chain = [] ∧ client = origin)
          ∨ ∃ binding own, chain.getLast? = some binding ∧ binding.derivation = .ok own
            ∧ client = origin.inContainer own ∧ client.IsDerived origin own))
    ∧ (∀ (world : World) (step : Step),
      ∃ acts : List Act, (∀ act ∈ acts,
          Registry.Allows world.around.installed (world.Binds step) act)
        ∧ (world.perform step).world.registry = acts.foldl Registry.act world.registry)
    ∧ ∀ (around : Surroundings) (spawn : Environment → Spawn) (steps : List Step),
      ∃ acts : List Act, (∀ act ∈ acts, Registry.Allows around.installed
          ((World.fresh around spawn).BindsAlong steps) act)
        ∧ ((World.fresh around spawn).performAll steps).2.registry = Registry.after acts := by
  refine ⟨Client.inContainer_inContainer, fun _ _ _ => Binding.exists_derivation, ?_,
    Registry.exists_acts_perform, Registry.exists_acts_performAll⟩
  intro acts id client hclient
  refine ⟨Registry.exists_chain hclient, fun origin chain hchain => ?_⟩
  obtain ⟨⟨found, hfound, hends⟩, hgive, hbind⟩ := hchain.found
  obtain rfl := Option.some.inj (hclient.symm.trans hfound)
  exact ⟨hgive, hbind, hends⟩

/-- A client of a server on the host with an activation of its own: it is for files of the work
folder. -/
def workClient : Client :=
  { Client.onHost (.text "pyls") [".py"] ["pyls"] (.whole (-1)) with
    activation := some fun path => .ok ("/work/".toList.isPrefixOf path.toList) }

/-- A container that one folder is mounted in, made from the client under an id. -/
def folderBinding (sourceId id folder : String) : Binding where
  sourceId := .text sourceId
  id := .text id
  command := .text "pyls --tcp"
  mounts := .ofTexts [folder ++ ":/mnt"]
  containerName := .text id
  image := .text "pyls:latest"
  priority := .whole 1
  launcher := .standard

/-- A chain of two container clients, the first of which is replaced in the end, as is the client
that the chain starts from. -/
def chainedActs : List Act :=
  [.give workClient, .bind (folderBinding "pyls" "pyls-work" "/work"),
    .bind (folderBinding "pyls-work" "pyls-home" "/home"),
    .give { workClient with extensions := [".txt"] },
    .bind (folderBinding "pyls" "pyls-work" "/tmp")]

/-- At the end of the chain, neither the activation of its start nor the mounts of the container
between them count. -/
theorem containers_do_not_nest_chained :
    Registry.Chain chainedActs (.text "pyls-home") workClient
        [folderBinding "pyls" "pyls-work" "/work", folderBinding "pyls-work" "pyls-home" "/home"]
      ∧ ∃ client, (Registry.after chainedActs).get? (.text "pyls-home") = some client
        ∧ client.isActivated "/home/a.py" = .ok true
        ∧ client.isActivated "/work/a.py" = .ok false
        ∧ workClient.isActivated "/home/a.py" = .ok false := by
  have hstart : Registry.Chain [.give workClient] (.text "pyls") workClient [] :=
    .start [] workClient (.text "pyls") rfl
  have hwork := Registry.Chain.next (.text "pyls-work")
    (show (folderBinding "pyls" "pyls-work" "/work").register _ = .ok _ from rfl) rfl hstart rfl
  have hhome := Registry.Chain.next (.text "pyls-home")
    (show (folderBinding "pyls-work" "pyls-home" "/home").register _ = .ok _ from rfl) rfl hwork rfl
  have hgiven := Registry.Chain.stay
    (.give { workClient with extensions := [".txt"] } (by decide)) hhome
  have hchain : Registry.Chain chainedActs (.text "pyls-home") workClient
      [folderBinding "pyls" "pyls-work" "/work", folderBinding "pyls-work" "pyls-home" "/home"] :=
    .stay (.bind (folderBinding "pyls" "pyls-work" "/tmp") _ rfl (by decide)) hgiven
  obtain ⟨⟨client, hclient, -⟩, -, -⟩ := hchain.found
  obtain ⟨-, hends⟩ := containers_do_not_nest.2.2.1 _ _ _ hclient
  obtain ⟨-, -, ⟨hnil, -⟩ | ⟨binding, own, hlast, hown, -, hderived⟩⟩ := hends _ _ hchain
  · contradiction
  · obtain rfl := Option.some.inj hlast
    obtain rfl := Except.ok.inj hown
    refine ⟨hchain, client, hclient, ?_, ?_, rfl⟩
    · rw [hderived.isActivated_eq]
      rfl
    · rw [hderived.isActivated_eq]
      rfl

end ContainerClients
