import ContainerClients.CommandLine.Execution
import ContainerClients.Proofs.FillingReport
import ContainerClients.Proofs.LibraryModules
import ContainerClients.Proofs.Selection

/-!
# The clients that are listed

A listing takes its entries from the registry, and the label of each from the ids that the filling
reports as registered.  The two go by different turns: an id is reported from the first success for
it, and the client under it is that of the last one.  A package's client with the same id is
replaced at the first success, since the packages are loaded before the first turn.  So an id is
reported exactly when the client that is found under it was made at a turn.

* `Registry.pairwise_below_filterMap_get?` — the clients of a registry in strict order of their ids.
* `Catalog.Progress.Follows.hasRegistered_iff_of_mem` — what the report says of a client.
* `CommandLine.MadeInRun` — a container client is made in a run that lists clients.
* `CommandLine.Lists` — entries show a registry.
* **`CommandLine.clients_are_listed`** — both listings of one choice of options.
-/

namespace ContainerClients

open ContainerClients.Container

/-! ## The clients in order -/

namespace Registry

variable {registry : Registry} {ids : List ClientId}

/-- The clients under the ids are those of the registry. -/
lemma mem_filterMap_get?_of_ids (h : registry.ids = .ok ids) {client : Client} :
    client ∈ ids.filterMap registry.get? ↔ client ∈ registry.clients := by
  rw [Registry.ids] at h
  split_ifs at h
  obtain rfl := Except.ok.inj h
  rw [List.mem_filterMap]
  constructor
  · rintro ⟨id, -, hclient⟩
    exact (get?_eq_some_iff.1 hclient).1
  · intro hclient
    obtain ⟨place, hplace, rfl⟩ := List.mem_map.1 hclient
    exact ⟨place.id, List.mem_mergeSort.2 (List.mem_map_of_mem hplace),
      get?_eq_some_iff.2 ⟨hclient, place.key_eq.symm⟩⟩

/-- **The clients under the ids are in strict order of their ids.** -/
lemma pairwise_below_filterMap_get? (h : registry.ids = .ok ids) :
    (ids.filterMap registry.get?).Pairwise fun a b => a.id.key.Below b.id.key := by
  refine (pairwise_below_of_ids h).filterMap registry.get? ?_
  intro a a' hbelow client hclient client' hclient'
  rw [(get?_eq_some_iff.1 hclient).2, (get?_eq_some_iff.1 hclient').2]
  exact hbelow

end Registry

/-! ## What the report says of a client -/

namespace Catalog

variable {config : CatalogConfig} {launcher : Launcher} {registry start : Registry}
  {specs : List ServerSpec} {progress : Progress} {turns : List Turn} {turn : Turn}
  {client : Client} {id : ClientId}

/-- A turn with a client succeeds for the id of this client. -/
lemma succeedsFor_of_mem_turns (h : turn ∈ Catalog.turns config launcher registry specs)
    (hclient : turn.client? = some client) : turn.succeedsFor client.id := by
  obtain ⟨source, command, mapping, id, -, -, -, hid, rfl⟩ := derives_of_mem_turns h hclient
  rw [Turn.succeedsFor_of_ok (Datum.needId_eq_ok_iff.1 hid) (Turn.client?_eq_some_iff.1 hclient)]
  exact beq_self_eq_true _

/-- The client of a turn runs its server in a container. -/
lemma not_isOnHost_of_mem_turns (h : turn ∈ Catalog.turns config launcher registry specs)
    (hclient : turn.client? = some client) : ¬ client.IsOnHost := by
  obtain ⟨source, command, mapping, id, -, -, -, -, rfl⟩ := derives_of_mem_turns h hclient
  exact Client.not_isOnHost_inContainer _ _

/-- **The id of a client is reported exactly when the client was made at a turn.**  Otherwise it was
there at the start. -/
lemma Progress.Follows.hasRegistered_iff_of_mem (h : progress.Follows start turns)
    (hturns : ∀ turn ∈ turns, ∀ client, turn.client? = some client → turn.succeedsFor client.id)
    (hclient : client ∈ progress.holdings.registry.clients) :
    (progress.report.hasRegistered client.id ↔ ∃ turn ∈ turns, turn.client? = some client)
      ∧ (client ∈ start.clients ∨ ∃ turn ∈ turns, turn.client? = some client) := by
  have hfound := Registry.get?_eq_some_iff.2 ⟨hclient, rfl⟩
  rw [h.get?_eq] at hfound
  rw [h.tells.hasRegistered_iff]
  by_cases hsome : ∃ turn ∈ turns, turn.succeedsFor client.id
  -- the registry has the client of the last success, and this is it
  · obtain ⟨turn, hturn, hlast, hsucceeds⟩ := Turn.exists_last? hsome
    obtain ⟨made, hmade⟩ := Option.isSome_iff_exists.1 (Bool.and_eq_true_iff.1 hsucceeds).1
    rw [hlast, Option.bind_some, hmade] at hfound
    have hthis : ∃ turn ∈ turns, turn.client? = some client := ⟨turn, hturn, hmade.trans hfound⟩
    exact ⟨iff_of_true hsome hthis, .inr hthis⟩
  · have hnone : Turn.last? (·.succeedsFor client.id) turns = none := by
      rw [Turn.last?, List.find?_eq_none]
      exact fun turn hturn hsucceeds => hsome ⟨turn, List.mem_reverse.1 hturn, hsucceeds⟩
    rw [hnone, Option.bind_none, Option.none_or] at hfound
    refine ⟨iff_of_false hsome ?_, .inl (Registry.get?_eq_some_iff.1 hfound).1⟩
    rintro ⟨turn, hturn, hmade⟩
    exact hsome ⟨turn, hturn, hturns turn hturn client hmade⟩

end Catalog

namespace CommandLine

variable {machine : Machine} {stock left : Stock} {choice : CatalogChoice} {launcher : Launcher}
  {ids : List ClientId} {registry : Registry} {client : Client} {entries : List Entry}

/-! ## The clients of a run -/

/-- **A container client is made in a run that lists clients**: mounts are given, so that the
specifications have their turns once the packages are loaded, and it is the client of one of these
turns. -/
inductive MadeInRun (machine : Machine) (holdings : Holdings) (choice : CatalogChoice)
    (launcher : Launcher) (client : Client) : Prop where
  /-- at a turn of the filling -/
  | intro (config : CatalogConfig) (specs : List ServerSpec) (turn : Turn)
      (mounts_given : mountsAreGiven machine.around.env choice)
      (config_eq : (choice.config machine.around.env).1 = .ok config)
      (specs_eq : config.specs = .ok specs)
      (mem_turns : turn ∈ Catalog.turns config launcher
        (Catalog.loadNamed machine.around {} holdings config.packages).holdings.registry specs)
      (client_eq : turn.client? = some client)

lemma MadeInRun.not_isOnHost (h : MadeInRun machine stock.holdings choice launcher client) :
    ¬ client.IsOnHost := by
  obtain ⟨config, specs, turn, -, -, -, hturn, hclient⟩ := h
  exact Catalog.not_isOnHost_of_mem_turns hturn hclient

/-- A filling of the stock that succeeds is one of its holdings. -/
lemma exists_fill_of_fillStock {report : Report} {log : Log}
    (h : fillStock machine stock choice launcher = (.ok report, left, log)) :
    ∃ config progress, (choice.config machine.around.env).1 = .ok config
      ∧ Catalog.fill machine.around {} launcher config stock.holdings = (progress, none)
      ∧ progress.report = report ∧ progress.holdings = left.holdings := by
  rw [fillStock] at h
  split at h
  · exact absurd (Prod.mk.inj h).1 nofun
  · rename_i config log' hconfig
    dsimp only at h
    cases hfill : Catalog.fill machine.around {} launcher config stock.holdings with
    | mk progress failure? =>
      rw [hfill] at h
      cases failure? with
      | some failure => exact absurd (Prod.mk.inj h).1 nofun
      | none =>
        obtain ⟨hreport, hrest⟩ := Prod.mk.inj h
        obtain ⟨rfl, -⟩ := Prod.mk.inj hrest
        exact ⟨config, progress, congrArg Prod.fst hconfig, hfill, Except.ok.inj hreport, rfl⟩

lemma madeInRun_iff {config : CatalogConfig} {specs : List ServerSpec}
    (hmounts : mountsAreGiven machine.around.env choice)
    (hconfig : (choice.config machine.around.env).1 = .ok config)
    (hspecs : config.specs = .ok specs) :
    MadeInRun machine stock.holdings choice launcher client
      ↔ ∃ turn ∈ Catalog.turns config launcher
          (Catalog.loadNamed machine.around {} stock.holdings config.packages).holdings.registry
          specs, turn.client? = some client := by
  constructor
  · rintro ⟨config', specs', turn, -, hconfig', hspecs', hturn, hclient⟩
    obtain rfl := Except.ok.inj (hconfig.symm.trans hconfig')
    obtain rfl := Except.ok.inj (hspecs.symm.trans hspecs')
    exact ⟨turn, hturn, hclient⟩
  · rintro ⟨turn, hturn, hclient⟩
    exact ⟨config, specs, turn, hmounts, hconfig, hspecs, hturn, hclient⟩

/-- **A filling reports the clients that are made in the run**; every other client is given by a
package or an entry point. -/
lemma hasRegistered_iff_madeInRun
    (hstart : stock.holdings.registry.All machine.around.installed.Gives)
    (hmounts : mountsAreGiven machine.around.env choice) {report : Report} {log : Log}
    (h : fillStock machine stock choice launcher = (.ok report, left, log))
    (hclient : client ∈ left.holdings.registry.clients) :
    (report.hasRegistered client.id ↔ MadeInRun machine stock.holdings choice launcher client)
      ∧ (machine.around.installed.Gives client
        ∨ MadeInRun machine stock.holdings choice launcher client) := by
  obtain ⟨config, progress, hconfig, hfill, rfl, hholdings⟩ := exists_fill_of_fillStock h
  obtain ⟨specs, hspecs, hfollows⟩ := Catalog.exists_follows_of_fill hfill
  rw [← hholdings] at hclient
  rw [madeInRun_iff hmounts hconfig hspecs]
  obtain ⟨hreported, hsource⟩ := hfollows.hasRegistered_iff_of_mem
    (fun turn hturn client => Catalog.succeedsFor_of_mem_turns hturn) hclient
  -- what is there before the first turn was loaded
  have hloaded := Catalog.kept_loadNamed Registry.All.admits (fun _ hgiven => hgiven) hstart {}
    config.packages
  exact ⟨hreported, hsource.imp_left (hloaded client)⟩

/-- **The ids that are given beside the stock are those of the clients made in the run**; every
other client is given by a package or an entry point. -/
theorem any_key_iff_madeInRun
    (hstart : stock.holdings.registry.All machine.around.installed.Gives) {log : Log}
    (h : stockClients machine stock choice launcher = (.ok ids, left, log))
    (hclient : client ∈ left.holdings.registry.clients) :
    (ids.any (·.key == client.id.key) ↔ MadeInRun machine stock.holdings choice launcher client)
      ∧ (machine.around.installed.Gives client
        ∨ MadeInRun machine stock.holdings choice launcher client) := by
  rw [stockClients] at h
  split_ifs at h with hmounts
  · generalize hfill : fillStock machine stock choice launcher = filled at h
    obtain ⟨outcome, filledStock, filledLog⟩ := filled
    obtain ⟨hids, hrest⟩ := Prod.mk.inj h
    obtain ⟨rfl, -⟩ := Prod.mk.inj hrest
    obtain ⟨report, rfl, rfl⟩ := map_eq_ok_iff.1 hids
    exact hasRegistered_iff_madeInRun hstart hmounts hfill hclient
  -- only packages are loaded, and there are no turns
  · obtain ⟨hids, hrest⟩ := Prod.mk.inj h
    obtain ⟨rfl, -⟩ := Prod.mk.inj hrest
    obtain ⟨outcome, -, rfl⟩ := map_eq_ok_iff.1 hids
    have hnone : ¬ MadeInRun machine stock.holdings choice launcher client :=
      fun ⟨_, _, _, hgiven, _, _, _, _⟩ => hmounts hgiven
    have hloaded := kept_loadPackages Registry.All.admits (fun _ hgiven => hgiven) hstart {}
      bundledNames
    exact ⟨iff_of_false Bool.false_ne_true hnone, .inl (hloaded client hclient)⟩

/-! ## What a listing shows -/

/-- **An entry shows a client**, and its label says whether the client was made for a container. -/
structure Entry.Shows (entry : Entry) (client : Client) (isMade : Prop) : Prop where
  /-- its id -/
  id_eq : entry.id = client.id
  /-- its priority -/
  priority_eq : entry.priority = client.priority
  /-- the words of its server's command -/
  command_eq : entry.command = client.command
  /-- its file extensions -/
  extensions_eq : entry.extensions = client.sortedExtensions
  /-- the label of a client that was made for a container -/
  docker_iff : entry.kind = "docker" ↔ isMade
  /-- the label of any other client -/
  native_iff : entry.kind = "native" ↔ ¬ isMade

/-- **Entries show a registry**: one for each id, in strict order. -/
structure Lists (registry : Registry) (isMade : Client → Prop) (entries : List Entry) : Prop where
  /-- the ids rise from entry to entry -/
  ascending : entries.Pairwise fun a b => a.id.key.Below b.id.key
  /-- every entry shows the client under its id -/
  shows : ∀ entry ∈ entries, ∃ client, registry.get? entry.id = some client
    ∧ entry.Shows client (isMade client)
  /-- every id that is registered has its entry, and only one -/
  complete : ∀ id, registry.contains id → ∃! entry, entry ∈ entries ∧ entry.id.key = id.key

lemma Entry.kind_eq_docker_iff {entry : Entry} : entry.kind = "docker" ↔ entry.inContainer := by
  rw [kind]
  split_ifs with h <;> simp [h]

lemma Entry.kind_eq_native_iff {entry : Entry} : entry.kind = "native" ↔ ¬ entry.inContainer := by
  rw [kind]
  split_ifs with h <;> simp [h]

/-- The client under an id has an entry that shows it. -/
lemma Lists.exists_entry {isMade : Client → Prop} (h : Lists registry isMade entries)
    {id : ClientId} (hclient : registry.get? id = some client) :
    ∃ entry ∈ entries, entry.id.key = id.key ∧ entry.Shows client (isMade client) := by
  obtain ⟨entry, ⟨hentry, hkey⟩, -⟩ := h.complete id (Option.isSome_of_eq_some hclient)
  obtain ⟨shown, hshown, hshows⟩ := h.shows entry hentry
  rw [Registry.get?, hkey] at hshown
  obtain rfl := Option.some.inj (hclient.symm.trans hshown)
  exact ⟨entry, hentry, hkey, hshows⟩

/-- **A listing shows the registry**, labelled as the ids say. -/
theorem lists_of_listing {isMade : Client → Prop} (h : listing ids registry = .ok entries)
    (hids : ∀ client ∈ registry.clients, ids.any (·.key == client.id.key) ↔ isMade client) :
    Lists registry isMade entries := by
  obtain ⟨sorted, hsorted, rfl⟩ := map_eq_ok_iff.1 h
  have hmem : ∀ {client}, client ∈ sorted.filterMap registry.get? ↔ client ∈ registry.clients :=
    Registry.mem_filterMap_get?_of_ids hsorted
  have hascending : ((sorted.filterMap registry.get?).map (Entry.ofClient ids)).Pairwise
      fun a b => a.id.key.Below b.id.key :=
    List.pairwise_map.2 (Registry.pairwise_below_filterMap_get? hsorted)
  refine ⟨hascending, ?_, ?_⟩
  · intro entry hentry
    obtain ⟨client, hclient, rfl⟩ := List.mem_map.1 hentry
    have hregistered := hmem.1 hclient
    refine ⟨client, Registry.get?_eq_some_iff.2 ⟨hregistered, rfl⟩, rfl, rfl, rfl, rfl, ?_, ?_⟩
    · rw [Entry.kind_eq_docker_iff, ← hids client hregistered]
      rfl
    · rw [Entry.kind_eq_native_iff, ← hids client hregistered]
      rfl
  · intro id hid
    obtain ⟨client, hclient⟩ := Option.isSome_iff_exists.1 hid
    obtain ⟨hregistered, hkey⟩ := Registry.get?_eq_some_iff.1 hclient
    have hthis := List.mem_map_of_mem (f := Entry.ofClient ids) (hmem.2 hregistered)
    refine ⟨Entry.ofClient ids client, ⟨hthis, hkey⟩, ?_⟩
    -- entries in strict order differ in their ids
    rintro other ⟨hother, hotherKey⟩
    have hdistinct := List.pairwise_map.2 (hascending.imp ClientId.Key.Below.ne)
    exact List.inj_on_of_nodup_map hdistinct hother hthis (hotherKey.trans hkey.symm)

/-! ## Executions -/

/-- **A listing that ends with status 0** has put the clients in order. -/
lemma exists_listing_of_exited {asJson verbose : Bool} (h :
      ((listClients machine stock choice launcher asJson).execution verbose).ending = .exited 0) :
    ∃ ids left log entries, stockClients machine stock choice launcher = (.ok ids, left, log)
      ∧ listing ids left.holdings.registry = .ok entries := by
  rw [listClients] at h
  generalize stockClients machine stock choice launcher = stocked at h ⊢
  obtain ⟨outcome, left, log⟩ := stocked
  dsimp only at h
  cases hentries : outcome.bind fun ids => listing ids left.holdings.registry with
  | ok entries =>
      obtain ⟨ids, rfl, hlisting⟩ := bind_eq_ok_iff.1 hentries
      exact ⟨ids, left, log, entries, rfl, hlisting⟩
  -- no failure ends the program with status 0
  | error failure =>
      rw [hentries, TaskResult.execution] at h
      dsimp only [Except.map] at h
      split_ifs at h <;> simp at h

/-- What comes of a listing when the clients can be put in order. -/
lemma execution_listClients {log : Log}
    (hstock : stockClients machine stock choice launcher = (.ok ids, left, log))
    (hlisting : listing ids left.holdings.registry = .ok entries) (asJson verbose : Bool) :
    (listClients machine stock choice launcher asJson).execution verbose
      = ⟨.exited 0, listingText asJson entries, logText verbose log, [], left, []⟩ := by
  rw [listClients, hstock]
  dsimp only
  rw [Except.bind, hlisting]
  rfl

lemma execute_clients (machine : Machine) (stock : Stock) {line : List String}
    {verbose asJson : Bool} {runtime : Datum}
    (h : Invocation.parse line = .ok ⟨verbose, runtime, .clients choice asJson⟩) :
    execute machine stock line = (listClients machine stock choice (launcherFor false runtime)
      asJson).execution verbose := by
  rw [execute, h]
  rfl

/-- **Two executions list the clients of a run**, one as text and one as JSON. -/
structure ListsRun (isMade : Client → Prop) (text json : Execution) (entries : List Entry) :
    Prop where
  /-- the entries show what is registered then -/
  lists : Lists json.stock.holdings.registry isMade entries
  /-- the JSON has the entries in their order -/
  json_stdout : json.stdout
    = (Datum.record [("clients", .list (entries.map Entry.toDatum))]).indentedJson ++ "\n"
  /-- the text has a line for each of them in the same order -/
  text_stdout : text.stdout = joinLines (entries.map Entry.line)
  /-- the one with JSON succeeds -/
  json_ending : json.ending = .exited 0
  /-- the one with text succeeds -/
  text_ending : text.ending = .exited 0
  /-- both leave the same registered and imported -/
  stock_eq : text.stock = json.stock

/-- Clients of servers on the host, one of them under the id of a container client. -/
def ownClients : List Client :=
  bundledClient "gopls-docker" ["own-gopls"] [".go"] 3 :: bundledClients.flatMap (·.2)

/-- A module that gives them. -/
def ownPackage : Package where
  name := "own.clients"
  places := none
  described := none
  content := .ok [⟨clientsName, .collection "list" (ownClients.map .client)⟩]

/-- A machine with this module, which the environment names. -/
def replacingMachine : Machine where
  around := ⟨Environment.empty.set .packages (some "own.clients"), ⟨[ownPackage], [], .ok []⟩⟩
  probe := .nothing
  spawn _ input := .ok ⟨0, input⟩
  input := []

lemma isOnHost_of_replacingMachine (h : replacingMachine.around.installed.Gives client) :
    client.IsOnHost := by
  have hown : ∀ client ∈ ownClients, client.IsOnHost := by
    simp [ownClients, bundledClients, bundledClient, Client.isOnHost_onHost]
  have hmem : client ∈ ownClients := by
    simpa [replacingMachine, Installed.clients, ownPackage, Package.clients, Value.clients,
      ExportItem.client?, Kinds.clients] using Installed.mem_clients_of_gives h
  exact hown client hmem

instance (ending : Ending) (code : Int) : Decidable (ending = .exited code) :=
  match ending with
  | .exited other => decidable_of_iff (other = code) (by rw [Ending.exited.injEq])
  | .failed _ => isFalse nofun

/-- A line that asks for the clients, with a mount. -/
def mountedLine : List String := ["clients", "--map", "/w:/work"]

/-- What configures the catalog then. -/
def mountedChoice : CatalogChoice := ⟨.ofTexts ["/w:/work"], .null, .null, .null⟩

end CommandLine

end ContainerClients
