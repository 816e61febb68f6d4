import ContainerClients.Client

/-!
# The registry of clients

The registry holds one client under each id.  A client that is registered under an id in use takes
the place of the one before it; the id itself stays as it was first given.

* `Registry` — the clients in the order of their first registration; no two have the same key.
* `Registry.register`, `get?`, `require`, `contains` — the operations.
* `Registry.ids` — the ids in order.
* `Registry.clientsFor` — the clients that a file activates, the highest priority first.
-/

namespace ContainerClients

/-- **A place in the registry.** -/
structure Place where
  /-- the id as it was first given -/
  id : ClientId
  /-- the client that was registered last -/
  client : Client
  /-- the client has this id -/
  key_eq : id.key = client.id.key

/-- What tells a place from others. -/
def Place.key (place : Place) : ClientId.Key := place.id.key

/-- Puts a client in the place of the one with its id, or at the end. -/
def putClient (client : Client) : List Place → List Place
  | [] => [⟨client.id, client, rfl⟩]
  | place :: rest =>
    if h : place.key = client.id.key then ⟨place.id, client, h⟩ :: rest
    else place :: putClient client rest

theorem mem_map_key_putClient {client : Client} {places : List Place} {key : ClientId.Key} :
    key ∈ (putClient client places).map Place.key
      ↔ key = client.id.key ∨ key ∈ places.map Place.key := by
  induction places with
  | nil => simp [putClient, Place.key]
  | cons place rest ih =>
    rw [putClient]
    split
    · rename_i h
      simp only [List.map_cons, List.mem_cons]
      have hk : Place.key ⟨place.id, client, h⟩ = client.id.key := h
      rw [hk, h]
      constructor
      · rintro (h | h)
        · exact .inl h
        · exact .inr (.inr h)
      · rintro (h | h | h)
        · exact .inl h
        · exact .inl h
        · exact .inr h
    · simp only [List.map_cons, List.mem_cons, ih]
      constructor
      · rintro (h | h | h)
        · exact .inr (.inl h)
        · exact .inl h
        · exact .inr (.inr h)
      · rintro (h | h | h)
        · exact .inr (.inl h)
        · exact .inl h
        · exact .inr (.inr h)

theorem nodup_keys_putClient (client : Client) {places : List Place}
    (h : (places.map Place.key).Nodup) : ((putClient client places).map Place.key).Nodup := by
  induction places with
  | nil => simp [putClient]
  | cons place rest ih =>
    simp only [List.map_cons, List.nodup_cons] at h
    rw [putClient]
    split
    · rename_i he
      rw [List.map_cons, List.nodup_cons]
      exact h
    · rename_i he
      rw [List.map_cons, List.nodup_cons, mem_map_key_putClient, not_or]
      exact ⟨⟨he, h.1⟩, ih h.2⟩

/-- **The registry of clients** (`ClientRegistry`). -/
structure Registry where
  /-- the places, in the order in which their ids were first registered -/
  places : List Place
  /-- no two places have the same key -/
  nodup_keys : (places.map Place.key).Nodup

namespace Registry

/-- The registry without clients. -/
def empty : Registry := ⟨[], by simp⟩

instance : Inhabited Registry := ⟨empty⟩

/-- The clients, in the order in which their ids were first registered. -/
def clients (registry : Registry) : List Client := registry.places.map (·.client)

/-- **Registers a client** (`register`) under its id, in place of the one before it. -/
def register (registry : Registry) (client : Client) : Registry :=
  ⟨putClient client registry.places, nodup_keys_putClient client registry.nodup_keys⟩

/-- The client under an id (`get_client`). -/
def get? (registry : Registry) (id : ClientId) : Option Client :=
  (registry.places.find? (·.key == id.key)).map (·.client)

/-- Whether there is a client under an id. -/
def contains (registry : Registry) (id : ClientId) : Bool := (registry.get? id).isSome

/-- What is reported when a client is registered. -/
def registrationLog (registry : Registry) (client : Client) : Log :=
  if registry.contains client.id then [.replacing client.id.shown] else []

/-- Registers clients one after the other. -/
def registerAll (registry : Registry) (clients : List Client) : Registry :=
  clients.foldl register registry

/-- What is reported when clients are registered one after the other. -/
def registrationLogs (registry : Registry) : List Client → Log
  | [] => []
  | client :: rest =>
    registry.registrationLog client ++ (registry.register client).registrationLogs rest

/-- The ids by their keys. -/
def sortedIds (registry : Registry) : List ClientId :=
  ClientId.sorted (registry.places.map (·.id))

/-- **The ids in order** (`server_ids`).  All of them need to be of one kind. -/
def ids (registry : Registry) : Except Failure (List ClientId) :=
  if ClientId.areComparable (registry.places.map (·.id)) then .ok registry.sortedIds
  else .error .mistyped

/-- The client under an id, which has to be there (`require_client`). -/
def require (registry : Registry) (id : ClientId) : Except Failure Client :=
  match registry.get? id with
  | some client => .ok client
  | none => do
    let ids ← registry.ids
    throw (.unknownId id.toDatum (ids.map ClientId.toDatum))

/-- The client under an id that may turn out to be none. -/
def requireNamed (registry : Registry) (id : Datum) : Except Failure Client :=
  id.needId.bind registry.require

/-- A client with its rank. -/
def ranked (client : Client) : Except Failure (Rank × Client) :=
  match Rank.ofDatum? client.priority with
  | some rank => .ok (rank, client)
  | none => .error .mistyped

/-- **The order of clients**: by falling rank, and by rising id among equals. -/
def precedes (a b : Rank × Client) : Bool :=
  b.1.lt a.1 || (a.1 = b.1 && a.2.id.key.precedes b.2.id.key)

/-- Clients of one rank have ids that can be put in order. -/
def tiesAreComparable (ranks : List (Rank × Client)) : Bool :=
  ranks.all fun a => ranks.all fun b => a.1 ≠ b.1 || a.2.id.key.sameKind b.2.id.key

/-- The clients among some that a file activates.  All of them are asked, up to the first one whose
activation fails. -/
def activated (path : String) : List Client → Except Failure (List Client)
  | [] => .ok []
  | client :: rest => do
    let isActivated ← client.isActivated path
    let others ← activated path rest
    return if isActivated then client :: others else others

/-- **The clients that a file activates** (`clients_for_file`), in order.  All of them need a rank,
and those of one rank need ids of one kind. -/
def clientsFor (registry : Registry) (path : String) : Except Failure (List Client) := do
  let ranks ← (← activated path registry.clients).mapM ranked
  if tiesAreComparable ranks then return (ranks.mergeSort precedes).map (·.2)
  else throw .mistyped

/-! ## What a registration changes -/

@[simp] theorem empty_get? (id : ClientId) : empty.get? id = none := rfl

theorem find?_putClient (client : Client) (places : List Place) (key : ClientId.Key) :
    ((putClient client places).find? (·.key == key)).map (·.client)
      = if key = client.id.key then some client
        else (places.find? (·.key == key)).map (·.client) := by
  induction places with
  | nil =>
    by_cases h : key = client.id.key
    · simp [putClient, Place.key, h]
    · have h1 : ¬ client.id.key = key := fun e => h e.symm
      simp [putClient, Place.key, h, h1]
  | cons place rest ih =>
    rw [putClient]
    split
    · rename_i hc
      have hk : Place.key ⟨place.id, client, hc⟩ = client.id.key := hc
      by_cases h : key = client.id.key
      · simp [hk, h]
      · have h1 : ¬ client.id.key = key := fun e => h e.symm
        simp [hk, hc, h, h1]
    · rename_i hc
      by_cases h : key = client.id.key
      · subst h
        simpa [List.find?_cons, hc] using ih
      · by_cases h2 : place.key = key
        · simp [h, h2]
        · simpa [List.find?_cons, h, h2] using ih

/-- **The registered client is found under its id, and every other id keeps its client.** -/
theorem get?_register (registry : Registry) (client : Client) (id : ClientId) :
    (registry.register client).get? id
      = if id.key = client.id.key then some client else registry.get? id :=
  find?_putClient client registry.places id.key

end Registry

end ContainerClients
