import Mathlib.Data.List.Nodup
import ContainerClients.Proofs.ClientOrder
import ContainerClients.Proofs.Filling
import ContainerClients.Proofs.TextIds

/-!
# The clients that are offered for a file

A registry keeps the order in which its ids were first given, but nothing that it offers shows that
order.  The clients for a file are put in order by priority and id, and no two clients in a registry
have the same id, so the list is determined by which clients are in it.  These are the clients that
were registered last under their ids.

* `Client.HasPlace`, `Client.ComesBefore` — a client's priority and id as a whole number and a text,
  and the strict order by them.
* `Client.IsLastIn` — the client that is registered last under its id.
* `Registry.get?_eq_some_iff`, `Registry.mem_clients_registerAll` — the clients of a registry.
* `Registry.exists_clientsFor`, `Registry.exists_clientsFor_iff`, `Registry.exists_ids` — what any
  registry offers, and when it does.
* `Registry.pairwise_below_of_ids` — the ids of any registry are in strict order.
* **`Registry.offered_registerAll`** — what is offered after registrations.
-/

namespace ContainerClients

/-! ## The place of a client in the order -/

namespace Client

variable {a b client : Client} {i j : Int} {s t : String}

/-- **The place of a client in the order**: its priority is a whole number and its id a text. -/
structure HasPlace (client : Client) (priority : Int) (name : String) : Prop where
  /-- the priority ranks as this number -/
  rank : Rank.ofDatum? client.priority = some (.ofWhole priority)
  /-- the id is this text -/
  id : client.id = .text name

/-- **A client that has a place in the order.** -/
def IsPlaced (client : Client) : Prop := ∃ priority name, client.HasPlace priority name

/-- **One client comes before another**: its priority is higher, or it is the same and its id comes
first. -/
def ComesBefore (a b : Client) : Prop :=
  ∃ i s j t, a.HasPlace i s ∧ b.HasPlace j t ∧ (j < i ∨ i = j ∧ s < t)

/-- A client has one place only. -/
lemma HasPlace.unique (h : client.HasPlace i s) (h' : client.HasPlace j t) : i = j ∧ s = t :=
  ⟨Rank.ofWhole_inj.1 (Option.some.inj (h.rank.symm.trans h'.rank)),
    ClientId.text.inj (h.id.symm.trans h'.id)⟩

lemma IsPlaced.isText (h : client.IsPlaced) : client.id.IsText := by
  obtain ⟨_, name, hplace⟩ := h
  exact ⟨name, hplace.id⟩

/-- **No client comes before one that comes before it.** -/
lemma ComesBefore.asymm (h : a.ComesBefore b) : ¬ b.ComesBefore a := by
  obtain ⟨i, s, j, t, ha, hb, hab⟩ := h
  rintro ⟨j', t', i', s', hb', ha', hba⟩
  obtain ⟨rfl, rfl⟩ := ha.unique ha'
  obtain ⟨rfl, rfl⟩ := hb.unique hb'
  rcases hab with hab | ⟨rfl, hst⟩
  · omega
  · rcases hba with hba | ⟨-, hts⟩
    · omega
    · exact lt_asymm hst hts

end Client

/-! ## The last registration under an id -/

/-- **The client that is registered last under its id.** -/
def Client.IsLastIn (client : Client) (clients : List Client) : Prop :=
  ∃ before after, clients = before ++ client :: after ∧ ∀ later ∈ after, later.id ≠ client.id

namespace Client

variable {client first : Client} {clients rest : List Client}

lemma IsLastIn.mem (h : client.IsLastIn clients) : client ∈ clients := by
  obtain ⟨before, after, rfl, -⟩ := h
  exact List.mem_append_right before List.mem_cons_self

lemma not_isLastIn_nil : ¬ client.IsLastIn [] := fun h => List.not_mem_nil h.mem

lemma isLastIn_cons : client.IsLastIn (first :: rest)
    ↔ client.IsLastIn rest ∨ client = first ∧ ∀ later ∈ rest, later.id ≠ client.id := by
  constructor
  · rintro ⟨before, after, heq, hafter⟩
    cases before with
    | nil =>
        obtain ⟨rfl, rfl⟩ := List.cons.inj heq
        exact .inr ⟨rfl, hafter⟩
    | cons _ before => exact .inl ⟨before, after, (List.cons.inj heq).2, hafter⟩
  · rintro (⟨before, after, rfl, hafter⟩ | ⟨rfl, hrest⟩)
    · exact ⟨first :: before, after, rfl, hafter⟩
    · exact ⟨[], rest, rfl, hrest⟩

/-- **Under every id that is registered, some client is registered last.** -/
lemma exists_isLastIn (h : client ∈ clients) :
    ∃ last : Client, last.IsLastIn clients ∧ last.id = client.id := by
  induction clients generalizing client with
  | nil => exact absurd h List.not_mem_nil
  | cons first rest ih =>
      by_cases hrest : ∃ later ∈ rest, later.id = client.id
      · obtain ⟨later, hlater, hid⟩ := hrest
        obtain ⟨last, hlast, hlastId⟩ := ih hlater
        exact ⟨last, isLastIn_cons.2 (.inl hlast), hlastId.trans hid⟩
      · have hnone : ∀ later ∈ rest, later.id ≠ client.id :=
          fun later hlater hid => hrest ⟨later, hlater, hid⟩
        rcases List.mem_cons.1 h with rfl | hmem
        · exact ⟨client, isLastIn_cons.2 (.inr ⟨rfl, hnone⟩), rfl⟩
        · exact absurd rfl (hnone client hmem)

/-- Looking from the end for an id that is a text finds the client that is registered last. -/
lemma find?_reverse_eq_some_iff (htext : ∀ each ∈ clients, each.id.IsText) :
    clients.reverse.find? (·.id.key == client.id.key) = some client ↔ client.IsLastIn clients := by
  rw [List.find?_eq_some_iff_append]
  constructor
  · rintro ⟨-, after, before, heq, hafter⟩
    refine ⟨before.reverse, after.reverse, ?_, fun later hlater hid => ?_⟩
    · rw [← List.reverse_reverse clients, heq]
      simp
    · have hkey := hafter later (List.mem_reverse.1 hlater)
      simp [hid] at hkey
  -- a later client with another id has another key, because this id is a text
  · intro h
    have hclient := htext client h.mem
    obtain ⟨before, after, rfl, hafter⟩ := h
    refine ⟨beq_self_eq_true _, after.reverse, before.reverse, by simp, fun later hlater => ?_⟩
    have hmem : later ∈ after := List.mem_reverse.1 hlater
    simpa [hclient.key_eq_iff] using hafter later hmem

end Client

namespace Registry

variable {registry : Registry} {client : Client} {clients : List Client}

/-! ## The clients of a registry -/

/-- The keys of places are those of their clients. -/
lemma map_key_clients (registry : Registry) :
    registry.clients.map (·.id.key) = registry.places.map Place.key := by
  rw [clients, List.map_map]
  exact List.map_congr_left fun place _ => place.key_eq.symm

/-- **No two clients of a registry have the same id.** -/
lemma pairwise_key_ne (registry : Registry) :
    registry.clients.Pairwise fun a b => a.id.key ≠ b.id.key := by
  have hnodup := registry.nodup_keys
  rwa [← map_key_clients, List.Nodup, List.pairwise_map] at hnodup

/-- **The client under an id is the one that has it.** -/
lemma get?_eq_some_iff {id : ClientId} :
    registry.get? id = some client ↔ client ∈ registry.clients ∧ client.id.key = id.key := by
  rw [get?, Option.map_eq_some_iff, clients]
  constructor
  · rintro ⟨place, hplace, rfl⟩
    have hkey : place.key = id.key := by simpa using List.find?_some hplace
    exact ⟨List.mem_map_of_mem (List.mem_of_find?_eq_some hplace), place.key_eq.symm.trans hkey⟩
  · rintro ⟨hmem, hid⟩
    obtain ⟨place, hplace, rfl⟩ := List.mem_map.1 hmem
    have hkey : place.key = id.key := place.key_eq.trans hid
    -- a place is found, and there is only one with this key
    obtain ⟨found, hfound⟩ : ∃ found, registry.places.find? (·.key == id.key) = some found :=
      Option.isSome_iff_exists.1 (List.find?_isSome.2 ⟨place, hplace, beq_iff_eq.2 hkey⟩)
    have hfoundKey : found.key = id.key := by simpa using List.find?_some hfound
    obtain rfl := List.inj_on_of_nodup_map registry.nodup_keys (List.mem_of_find?_eq_some hfound)
      hplace (hfoundKey.trans hkey.symm)
    exact ⟨found, hfound, rfl⟩

/-- **After registrations, a registry has the clients that were registered last under their
ids.** -/
theorem mem_clients_registerAll (htext : ∀ each ∈ clients, each.id.IsText) :
    client ∈ (empty.registerAll clients).clients ↔ client.IsLastIn clients := by
  have hget : client ∈ (empty.registerAll clients).clients
      ↔ (empty.registerAll clients).get? client.id = some client := by
    rw [get?_eq_some_iff, and_iff_left rfl]
  rw [hget, get?_registerAll, empty_get?, Option.or_none, Client.find?_reverse_eq_some_iff htext]

/-! ## What is offered for a file -/

/-- A client that has a place has a rank. -/
lemma exists_ranked (h : client.IsPlaced) : ∃ pair, ranked client = .ok pair := by
  obtain ⟨priority, name, hplace⟩ := h
  exact ⟨(.ofWhole priority, client), ranked_eq_ok_iff.2 ⟨hplace.rank, rfl⟩⟩

/-- The clients that were ranked, without their ranks. -/
lemma map_snd_of_mapM_ranked {ranks : List (Rank × Client)} (h : clients.mapM ranked = .ok ranks) :
    ranks.map (·.2) = clients := by
  have hall := mapM_eq_ok_iff.1 h
  clear h
  induction hall with
  | nil => rfl
  | cons hpair _ ih => rw [List.map_cons, ih, (ranked_eq_ok_iff.1 hpair).2]

/-- **The order of ranked clients is the strict order by priority and id** when their ids differ. -/
lemma comesBefore_of_precedes {a b : Rank × Client} (ha : ranked a.2 = .ok a)
    (hb : ranked b.2 = .ok b) (hplacedA : a.2.IsPlaced) (hplacedB : b.2.IsPlaced)
    (hne : a.2.id.key ≠ b.2.id.key) (h : precedes a b) : a.2.ComesBefore b.2 := by
  obtain ⟨i, s, hi⟩ := hplacedA
  obtain ⟨j, t, hj⟩ := hplacedB
  have hrankA : a.1 = .ofWhole i := Option.some.inj ((ranked_eq_ok_iff.1 ha).1.symm.trans hi.rank)
  have hrankB : b.1 = .ofWhole j := Option.some.inj ((ranked_eq_ok_iff.1 hb).1.symm.trans hj.rank)
  rw [precedes_iff, hrankA, hrankB, hi.id, hj.id] at h
  refine ⟨i, s, j, t, hi, hj, ?_⟩
  rcases h with hlt | ⟨heq, hkey⟩
  · exact .inl (Rank.lt_ofWhole.1 hlt)
  · rw [hi.id, hj.id, ne_eq, ClientId.key_text_inj] at hne
    have hle : s ≤ t := ClientId.Key.precedes_text.1 hkey
    exact .inr ⟨Rank.ofWhole_inj.1 heq, lt_of_le_of_ne hle hne⟩

/-- Clients whose ids are texts can be put in order. -/
lemma tiesAreComparable_of_isPlaced {ranks : List (Rank × Client)}
    (h : ∀ pair ∈ ranks, pair.2.IsPlaced) : tiesAreComparable ranks = true := by
  rw [tiesAreComparable, List.all_eq_true]
  intro a ha
  rw [List.all_eq_true]
  intro b hb
  obtain ⟨_, _, hplaceA⟩ := h a ha
  obtain ⟨_, _, hplaceB⟩ := h b hb
  -- two texts are of one kind
  rw [hplaceA.id, hplaceB.id]
  exact Bool.or_true _

section Placed

variable (h : ∀ each ∈ registry.clients, each.IsPlaced)

include h

/-- **What a registry offers for a file**, if all its clients have a place in the order and have
been asked whether the file activates them: those that it does, in strict order. -/
theorem exists_clientsFor {path : String} {chosen : List Client}
    (hchosen : activated path registry.clients = .ok chosen) :
    ∃ offered, registry.clientsFor path = .ok offered
      ∧ (∀ client, client ∈ offered
        ↔ client ∈ registry.clients ∧ client.isActivated path = .ok true)
      ∧ offered.Pairwise Client.ComesBefore := by
  have hplaced : ∀ client ∈ chosen, client.IsPlaced :=
    fun client hc => h client ((sublist_of_activated hchosen).subset hc)
  obtain ⟨ranks, hranks⟩ := exists_mapM_eq_ok fun client hc => exists_ranked (hplaced client hc)
  have hclients := map_snd_of_mapM_ranked hranks
  have hmem : ∀ pair ∈ ranks, pair.2.IsPlaced ∧ ranked pair.2 = .ok pair := by
    intro pair hpair
    obtain ⟨source, hsource, hranked⟩ := exists_of_mem_mapM hranks hpair
    obtain rfl := (ranked_eq_ok_iff.1 hranked).2
    exact ⟨hplaced _ hsource, hranked⟩
  have hties := tiesAreComparable_of_isPlaced fun pair hpair => (hmem pair hpair).1
  refine ⟨(ranks.mergeSort precedes).map (·.2), ?_, fun client => ?_, ?_⟩
  · exact bind_eq_ok_iff.2 ⟨chosen, hchosen, bind_eq_ok_iff.2 ⟨ranks, hranks, if_pos hties⟩⟩
  · rw [← mem_activated_iff hchosen, ← hclients]
    simp only [List.mem_map, List.mem_mergeSort]
  · have hdistinct : (ranks.mergeSort precedes).Pairwise fun a b => a.2.id.key ≠ b.2.id.key := by
      refine (List.mergeSort_perm ranks precedes).symm.pairwise ?_ Ne.symm
      have hkeys := registry.pairwise_key_ne.sublist (sublist_of_activated hchosen)
      rwa [← hclients, List.pairwise_map] at hkeys
    -- sorted clients may be equal in the order; with different ids one comes before the other
    rw [List.pairwise_map]
    refine ((pairwise_precedes_mergeSort ranks).and hdistinct).imp_of_mem ?_
    rintro a b ha hb ⟨hab, hne⟩
    obtain ⟨hplacedA, hrankedA⟩ := hmem a (List.mem_mergeSort.1 ha)
    obtain ⟨hplacedB, hrankedB⟩ := hmem b (List.mem_mergeSort.1 hb)
    exact comesBefore_of_precedes hrankedA hrankedB hplacedA hplacedB hne hab

/-- **Clients are offered exactly when every client answers** whether the file activates it. -/
lemma exists_clientsFor_iff (path : String) : (∃ offered, registry.clientsFor path = .ok offered)
    ↔ ∀ client ∈ registry.clients, ∃ b, client.isActivated path = .ok b := by
  rw [← exists_activated_iff]
  constructor
  · rintro ⟨offered, hoffered⟩
    obtain ⟨chosen, hchosen, -⟩ := bind_eq_ok_iff.1 hoffered
    exact ⟨chosen, hchosen⟩
  · rintro ⟨chosen, hchosen⟩
    obtain ⟨offered, hoffered, -⟩ := exists_clientsFor h hchosen
    exact ⟨offered, hoffered⟩

/-- What is offered is the clients that the file activates, in strict order. -/
lemma offered_of_clientsFor {path : String} {offered : List Client}
    (hoffered : registry.clientsFor path = .ok offered) :
    (∀ client, client ∈ offered
        ↔ client ∈ registry.clients ∧ client.isActivated path = .ok true)
      ∧ offered.Pairwise Client.ComesBefore := by
  obtain ⟨chosen, hchosen, -⟩ := bind_eq_ok_iff.1 hoffered
  obtain ⟨offered', hoffered', hmem, hordered⟩ := exists_clientsFor h hchosen
  obtain rfl := Except.ok.inj (hoffered.symm.trans hoffered')
  exact ⟨hmem, hordered⟩

/-- When nothing is offered, a client has failed to answer. -/
lemma exists_of_clientsFor_error {path : String} {failure : Failure}
    (hfails : registry.clientsFor path = .error failure) :
    ∃ client ∈ registry.clients, client.isActivated path = .error failure := by
  cases hchosen : activated path registry.clients with
  | ok chosen =>
    obtain ⟨offered, hoffered, -⟩ := exists_clientsFor h hchosen
    exact absurd (hfails.symm.trans hoffered) nofun
  | error other =>
    rw [clientsFor_eq, hchosen] at hfails
    obtain rfl := Except.error.inj hfails
    exact exists_of_activated_error hchosen

end Placed

/-! ## The ids -/

/-- **The ids of a registry are in strict order.** -/
lemma pairwise_below_of_ids {ids : List ClientId} (h : registry.ids = .ok ids) :
    ids.Pairwise fun a b => a.key.Below b.key := by
  rw [Registry.ids] at h
  split_ifs at h with hcomparable
  obtain rfl := Except.ok.inj h
  have hperm := List.mergeSort_perm (registry.places.map (·.id))
    fun a b : ClientId => a.key.precedes b.key
  have hdistinct : registry.sortedIds.Pairwise fun a b => a.key ≠ b.key := by
    refine hperm.symm.pairwise ?_ Ne.symm
    exact List.pairwise_map.2 (List.pairwise_map.1 registry.nodup_keys)
  refine ((ClientId.pairwise_precedes_sorted _).and hdistinct).imp_of_mem ?_
  rintro a b ha hb ⟨hab, hne⟩
  have hkind := List.all_eq_true.1 (List.all_eq_true.1 hcomparable a (hperm.mem_iff.1 ha)) b
    (hperm.mem_iff.1 hb)
  exact ClientId.Key.below_of_precedes hkind hab hne

/-- **The ids of a registry**, if all of them are texts: each once, in strict order. -/
theorem exists_ids (h : registry.HasTextIds) :
    ∃ names : List String, registry.ids = .ok (names.map .text) ∧ names.Pairwise (· < ·)
      ∧ ∀ name, name ∈ names ↔ ∃ client ∈ registry.clients, client.id = .text name := by
  obtain ⟨names, hnames⟩ := ClientId.exists_texts fun id hid => h.isText_of_mem_sortedIds hid
  have hperm : (names.map ClientId.text).Perm (registry.places.map (·.id)) :=
    hnames ▸ List.mergeSort_perm _ _
  refine ⟨names, by rw [h.ids_eq, hnames], ?_, fun name => ?_⟩
  · have hbelow := pairwise_below_of_ids h.ids_eq
    rw [hnames, List.pairwise_map] at hbelow
    exact hbelow.imp ClientId.Key.below_text.1
  · rw [← List.mem_map_of_injective (fun _ _ => ClientId.text.inj), hperm.mem_iff, List.mem_map]
    constructor
    · rintro ⟨place, hplace, hid⟩
      refine ⟨place.client, List.mem_map_of_mem hplace, ClientId.key_eq_text_iff.1 ?_⟩
      rw [← place.key_eq, hid, ClientId.key_text]
    · rintro ⟨client, hclient, hid⟩
      obtain ⟨place, hplace, rfl⟩ := List.mem_map.1 hclient
      refine ⟨place, hplace, ClientId.key_eq_text_iff.1 ?_⟩
      rw [place.key_eq, hid, ClientId.key_text]

/-! ## After registrations -/

section

variable (hplaced : ∀ each ∈ clients, each.IsPlaced)

include hplaced

lemma mem_clients_registerAll_of_isPlaced (client : Client) :
    client ∈ (empty.registerAll clients).clients ↔ client.IsLastIn clients :=
  mem_clients_registerAll fun each hc => (hplaced each hc).isText

lemma isPlaced_of_mem_registerAll :
    ∀ each ∈ (empty.registerAll clients).clients, each.IsPlaced :=
  fun each hc => hplaced each ((mem_clients_registerAll_of_isPlaced hplaced each).1 hc).mem

/-- When every client that is registered last answers, the file is offered its clients. -/
lemma exists_clientsFor_registerAll_iff (path : String) :
    (∃ offered, (empty.registerAll clients).clientsFor path = .ok offered)
      ↔ ∀ client : Client, client.IsLastIn clients → ∃ b, client.isActivated path = .ok b := by
  rw [exists_clientsFor_iff (isPlaced_of_mem_registerAll hplaced)]
  exact forall_congr' fun client => by rw [mem_clients_registerAll_of_isPlaced hplaced]

/-- What is offered for a file after registrations. -/
lemma offered_of_clientsFor_registerAll {path : String} {offered : List Client}
    (hoffered : (empty.registerAll clients).clientsFor path = .ok offered) :
    (∀ client : Client, client ∈ offered
        ↔ client.IsLastIn clients ∧ client.isActivated path = .ok true)
      ∧ offered.Pairwise Client.ComesBefore := by
  obtain ⟨hmem, hordered⟩ :=
    offered_of_clientsFor (isPlaced_of_mem_registerAll hplaced) hoffered
  refine ⟨fun client => ?_, hordered⟩
  rw [hmem, mem_clients_registerAll_of_isPlaced hplaced]

/-- The ids after registrations. -/
lemma exists_ids_registerAll :
    ∃ names : List String, (empty.registerAll clients).ids = .ok (names.map .text)
      ∧ (∀ name, name ∈ names ↔ ∃ client : Client, client.IsLastIn clients ∧ client.id = .text name)
      ∧ names.Pairwise (· < ·) := by
  have htext : ∀ each ∈ clients, each.id.IsText := fun each hc => (hplaced each hc).isText
  obtain ⟨names, hnames, hascending, hmem⟩ := exists_ids (hasTextIds_empty.registerAll htext)
  refine ⟨names, hnames, fun name => ?_, hascending⟩
  simp only [hmem, mem_clients_registerAll htext]

/-- **What is offered does not depend on the registrations** but for the last client under every
id. -/
lemma clientsFor_registerAll_of_same {others : List Client}
    (hothers : ∀ each ∈ others, each.IsPlaced)
    (hsame : ∀ client : Client, client.IsLastIn others ↔ client.IsLastIn clients) {path : String}
    {offered : List Client} (hoffered : (empty.registerAll clients).clientsFor path = .ok offered) :
    (empty.registerAll others).clientsFor path = .ok offered := by
  have hanswers := (exists_clientsFor_registerAll_iff hplaced path).1 ⟨offered, hoffered⟩
  obtain ⟨offered', hoffered'⟩ := (exists_clientsFor_registerAll_iff hothers path).2
    fun client hlast => hanswers client ((hsame client).1 hlast)
  obtain ⟨hmem, hordered⟩ := offered_of_clientsFor_registerAll hplaced hoffered
  obtain ⟨hmem', hordered'⟩ := offered_of_clientsFor_registerAll hothers hoffered'
  -- both lists are in strict order and have the same members
  have heq : offered' = offered := by
    refine eq_of_pairwise_of_mem_iff (fun _ _ => Client.ComesBefore.asymm) hordered' hordered ?_
    simp only [hmem, hmem', hsame, implies_true]
  rw [hoffered', heq]

end

/-- **What is offered after registrations** of clients whose priorities are whole numbers and whose
ids are texts, whatever they have to be activated:

* for a file, the clients that are registered last under their ids and that the file activates, each
  once and in strict order, by falling priority and rising id;
* they are offered whenever each of those that are registered last can say whether the file
  activates it, and otherwise one of these fails;
* as ids, all that were ever registered, in strict order;
* the same after any other registrations that have the same last client under every id. -/
theorem offered_registerAll (hplaced : ∀ each ∈ clients, each.IsPlaced) (path : String) :
    (∀ offered, (empty.registerAll clients).clientsFor path = .ok offered →
      offered.Nodup
      ∧ (∀ client : Client, client ∈ offered
        ↔ client.IsLastIn clients ∧ client.isActivated path = .ok true)
      ∧ offered.Pairwise Client.ComesBefore)
    ∧ ((∃ offered, (empty.registerAll clients).clientsFor path = .ok offered)
      ↔ ∀ client : Client, client.IsLastIn clients → ∃ b, client.isActivated path = .ok b)
    ∧ (∀ failure, (empty.registerAll clients).clientsFor path = .error failure →
      ∃ client : Client, client.IsLastIn clients ∧ client.isActivated path = .error failure)
    ∧ (∃ names : List String, (empty.registerAll clients).ids = .ok (names.map .text)
      ∧ names.Pairwise (· < ·)
      ∧ ∀ name, name ∈ names ↔ ∃ client ∈ clients, client.id = .text name)
    ∧ ∀ others : List Client, (∀ each ∈ others, each.IsPlaced) →
      (∀ client : Client, client.IsLastIn others ↔ client.IsLastIn clients) →
      (∀ offered, (empty.registerAll others).clientsFor path = .ok offered
        ↔ (empty.registerAll clients).clientsFor path = .ok offered)
      ∧ (empty.registerAll others).ids = (empty.registerAll clients).ids := by
  obtain ⟨names, hnames, hmemNames, hascending⟩ := exists_ids_registerAll hplaced
  refine ⟨fun offered hoffered => ?_, exists_clientsFor_registerAll_iff hplaced path,
    fun failure hfails => ?_, ⟨names, hnames, hascending, fun name => ?_⟩, ?_⟩
  · obtain ⟨hmem, hordered⟩ := offered_of_clientsFor_registerAll hplaced hoffered
    refine ⟨hordered.imp fun {a b} hab => ?_, hmem, hordered⟩
    rintro rfl
    exact hab.asymm hab
  · obtain ⟨client, hclient, hfailure⟩ :=
      exists_of_clientsFor_error (isPlaced_of_mem_registerAll hplaced) hfails
    exact ⟨client, (mem_clients_registerAll_of_isPlaced hplaced client).1 hclient, hfailure⟩
  · rw [hmemNames]
    constructor
    · rintro ⟨client, hlast, hid⟩
      exact ⟨client, hlast.mem, hid⟩
    · rintro ⟨client, hclient, hid⟩
      obtain ⟨last, hlast, hlastId⟩ := Client.exists_isLastIn hclient
      exact ⟨last, hlast, hlastId.trans hid⟩
  · intro others hothers hsame
    obtain ⟨names', hnames', hmemNames', hascending'⟩ := exists_ids_registerAll hothers
    have heqNames : names' = names := by
      refine eq_of_pairwise_of_mem_iff (fun _ _ => lt_asymm) hascending' hascending ?_
      simp only [hmemNames, hmemNames', hsame, implies_true]
    refine ⟨fun offered => ⟨?_, ?_⟩, by rw [hnames, hnames', heqNames]⟩
    · exact clientsFor_registerAll_of_same hothers hplaced fun client => (hsame client).symm
    · exact clientsFor_registerAll_of_same hplaced hothers hsame

/-- A client for Go files, on the host. -/
def goClient (name : String) (priority : Int) : Client :=
  .onHost (.text name) [".go"] [name] (.whole priority)

/-- A client for Go files of a folder only. -/
def folderClient (name folder : String) (priority : Int) : Client :=
  { goClient name priority with
    activation := some fun path => .ok (folder.toList.isPrefixOf path.toList) }

/-- Registrations of which the third takes the place of the second. -/
def replacing : List Client :=
  [goClient "second" 0, goClient "first" 5, folderClient "first" "/w/" 0,
    folderClient "third" "/tmp/" 9]

/-- The clients that these registrations leave. -/
def replaced : List Client :=
  [folderClient "third" "/tmp/" 9, folderClient "first" "/w/" 0, goClient "second" 0]

lemma isLastIn_replacing_iff {client : Client} :
    client.IsLastIn replacing ↔ client ∈ replaced := by
  simp only [replacing, replaced, Client.isLastIn_cons, Client.not_isLastIn_nil, List.mem_cons,
    List.not_mem_nil, or_false, false_or]
  constructor
  · rintro (((⟨rfl, -⟩ | ⟨rfl, -⟩) | ⟨rfl, hid⟩) | ⟨rfl, -⟩)
    · exact .inl rfl
    · exact .inr (.inl rfl)
    · exact absurd rfl (hid (folderClient "first" "/w/" 0) (.inl rfl))
    · exact .inr (.inr rfl)
  · rintro (rfl | rfl | rfl)
    · exact .inl (.inl (.inl ⟨rfl, by simp⟩))
    · exact .inl (.inl (.inr ⟨rfl, by simp [folderClient, goClient, Client.onHost]⟩))
    · exact .inr ⟨rfl, by simp [folderClient, goClient, Client.onHost]⟩

lemma isLastIn_replaced_iff {client : Client} :
    client.IsLastIn replaced ↔ client ∈ replaced := by
  simp only [replaced, Client.isLastIn_cons, Client.not_isLastIn_nil, List.mem_cons,
    List.not_mem_nil, or_false, false_or]
  constructor
  · rintro ((⟨rfl, -⟩ | ⟨rfl, -⟩) | ⟨rfl, -⟩)
    · exact .inr (.inr rfl)
    · exact .inr (.inl rfl)
    · exact .inl rfl
  · rintro (rfl | rfl | rfl)
    · exact .inr ⟨rfl, by simp [folderClient, goClient, Client.onHost]⟩
    · exact .inl (.inr ⟨rfl, by simp [folderClient, goClient, Client.onHost]⟩)
    · exact .inl (.inl ⟨rfl, by simp⟩)

lemma isPlaced_goClient (name : String) (priority : Int) : (goClient name priority).IsPlaced :=
  ⟨priority, name, rfl, rfl⟩

lemma isPlaced_folderClient (name folder : String) (priority : Int) :
    (folderClient name folder priority).IsPlaced := ⟨priority, name, rfl, rfl⟩

/-- **Of two clients with one id, the one that was registered last is offered**, if the file is in
its folder, and in which order the ids were registered does not show. -/
theorem offered_registerAll_replacing :
    (∀ each ∈ replacing, each.IsPlaced)
    ∧ (∀ each ∈ replaced, each.IsPlaced)
    ∧ (∀ client : Client, client.IsLastIn replaced ↔ client.IsLastIn replacing)
    ∧ (∃ offered, (empty.registerAll replacing).clientsFor "/w/main.go" = .ok offered
      ∧ (empty.registerAll replaced).clientsFor "/w/main.go" = .ok offered
      ∧ offered = [folderClient "first" "/w/" 0, goClient "second" 0])
    ∧ (empty.registerAll replacing).ids = .ok [.text "first", .text "second", .text "third"]
    ∧ (empty.registerAll replaced).ids = .ok [.text "first", .text "second", .text "third"] := by
  have hreplacing : ∀ each ∈ replacing, each.IsPlaced := by
    simp [replacing, isPlaced_goClient, isPlaced_folderClient]
  have hreplaced : ∀ each ∈ replaced, each.IsPlaced := by
    simp [replaced, isPlaced_goClient, isPlaced_folderClient]
  have hsame : ∀ client : Client, client.IsLastIn replaced ↔ client.IsLastIn replacing :=
    fun client => isLastIn_replaced_iff.trans isLastIn_replacing_iff.symm
  let inFolder : List Client := [folderClient "first" "/w/" 0, goClient "second" 0]
  have hordered : inFolder.Pairwise Client.ComesBefore := by
    refine List.pairwise_pair.2 ⟨0, "first", 0, "second", ⟨rfl, rfl⟩, ⟨rfl, rfl⟩, .inr ⟨rfl, ?_⟩⟩
    decide
  have hactivated : ∀ each : Client, each ∈ inFolder
      ↔ each ∈ replaced ∧ each.isActivated "/w/main.go" = .ok true := by
    simp only [inFolder, replaced, List.mem_cons, List.not_mem_nil, or_false]
    intro each
    constructor
    · rintro (rfl | rfl)
      · exact ⟨.inr (.inl rfl), rfl⟩
      · exact ⟨.inr (.inr rfl), rfl⟩
    · rintro ⟨rfl | rfl | rfl, hactivated⟩
      · have hoff : (folderClient "third" "/tmp/" 9).isActivated "/w/main.go" = .ok false := rfl
        exact absurd (hoff.symm.trans hactivated) (by simp)
      · exact .inl rfl
      · exact .inr rfl
  obtain ⟨hoffers, hanswers, -, ⟨names, hnames, hascending, hmemNames⟩, hothers⟩ :=
    offered_registerAll hreplacing "/w/main.go"
  obtain ⟨hclients, hids⟩ := hothers replaced hreplaced hsame
  obtain ⟨offered, hoffered⟩ := hanswers.2 fun client hlast => by
    rw [isLastIn_replacing_iff] at hlast
    simp only [replaced, List.mem_cons, List.not_mem_nil, or_false] at hlast
    rcases hlast with rfl | rfl | rfl <;> exact ⟨_, rfl⟩
  obtain ⟨-, hmem, hpairwise⟩ := hoffers offered hoffered
  have heq : offered = inFolder := by
    refine eq_of_pairwise_of_mem_iff (fun _ _ => Client.ComesBefore.asymm) hpairwise hordered ?_
    intro client
    rw [hmem, isLastIn_replacing_iff, hactivated]
  have hnamed : names = ["first", "second", "third"] := by
    refine eq_of_pairwise_of_mem_iff (fun _ _ => lt_asymm) hascending (by decide) fun name => ?_
    have hgiven : (∃ client ∈ replacing, client.id = .text name)
        ↔ name = "second" ∨ name = "first" ∨ name = "third" := by
      simp [replacing, folderClient, goClient, Client.onHost, eq_comm]
    rw [hmemNames, hgiven, or_left_comm]
    simp
  subst hnamed
  exact ⟨hreplacing, hreplaced, hsame, ⟨offered, hoffered, (hclients offered).2 hoffered, heq⟩,
    hnames, hids.trans hnames⟩

end Registry

end ContainerClients
