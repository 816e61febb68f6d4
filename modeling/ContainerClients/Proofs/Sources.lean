import ContainerClients.Proofs.EntryPoints

/-!
# Loading, source by source

Clients come from packages that are named, from those that the environment names, and from entry
points.  Each of them is a source: it offers clients, or it fails.  What a source offers depends on
what was imported before, and not on what is registered; so the offers of all sources can be listed
first, and the registrations read off the list.

* `Source`, `Source.given?`, `Source.after` — a source, what it gives and what it leaves imported.
* `Source.load` — loading a source.
* `Offer`, `offers` — what the sources offer, each at its turn.
* `loadSources` — loading sources one after the other.
* **`loadSources_of_isRegistrable`** — the clients of the offers are registered, in order.
* `Surroundings.packageSources`, `Surroundings.entryPointSources` — the sources of a loading: every
  package once, where it is first named, and then the entry points.
* `loadInOrder` — loading all of them, each once.
* **`loadPackages_eq_loadInOrder`** — loading packages does just that.
-/

namespace ContainerClients

/-! ## Sources -/

deriving instance DecidableEq for EntryPoint

/-- **A source of clients.** -/
inductive Source where
  /-- a package that is named -/
  | package (name : String)
  /-- an entry point -/
  | entryPoint (entryPoint : EntryPoint)
deriving DecidableEq

namespace Source

/-- The name under which the outcome of a source is kept. -/
def name : Source → String
  | package name => name
  | entryPoint point => point.name

/-- The names that lead on from the module. -/
def way : Source → List String
  | package _ => []
  | entryPoint point => point.way

/-- **What a source gives**, unless it cannot be loaded. -/
def given? (installed : Installed) (imported : Imported) : Source → Option Export
  | package name =>
    (installed.importPackage imported (fullName name)).1.toOption.map fun found =>
      (installed.clientsExport? (installed.importPackage imported (fullName name)).2 found).getD
        .nothing
  | entryPoint point => (point.load installed imported).1.toOption

/-- The modules that are imported once a source is loaded, whatever comes of it. -/
def after (installed : Installed) (imported : Imported) : Source → Imported
  | package name => (installed.importPackage imported (fullName name)).2
  | entryPoint point => (point.load installed imported).2

/-- **Loading a source**; whether it succeeds. -/
def load (installed : Installed) (holdings : Holdings) : Source → Loaded Bool
  | package name => loadPackage installed holdings name
  | entryPoint point => loadEntryPoint installed holdings point

end Source

/-! ## Offers -/

/-- **What a source offers** at its turn. -/
structure Offer where
  /-- the source -/
  source : Source
  /-- what it gives, unless it cannot be loaded -/
  given? : Option Export
  /-- the modules that are imported at its turn, and were not before -/
  brings : List String

namespace Offer

/-- The clients of an offer; `none` for a source that fails. -/
def clients? (offer : Offer) : Option (List Client) := offer.given?.bind Export.clients?

/-- The clients of an offer. -/
def clients (offer : Offer) : List Client := offer.clients?.getD []

/-- **A source succeeds** when it gives a collection. -/
def succeeds (offer : Offer) : Bool := offer.clients?.isSome

/-- The outcome of an offer, under the name of its source. -/
def entry (offer : Offer) : String × Bool := (offer.source.name, offer.succeeds)

/-- **All clients of an offer can be registered.** -/
def IsRegistrable (offer : Offer) : Prop := ∀ given ∈ offer.given?, given.IsRegistrable

instance (offer : Offer) : Decidable offer.IsRegistrable :=
  inferInstanceAs (Decidable (∀ given ∈ offer.given?, given.IsRegistrable))

end Offer

/-- The offer of a source, with some modules imported. -/
def Source.offer (installed : Installed) (imported : Imported) (source : Source) : Offer where
  source
  given? := source.given? installed imported
  brings := (source.after installed imported).since imported

/-- **What sources offer**, each at its turn. -/
def offers (installed : Installed) : Imported → List Source → List Offer
  | _, [] => []
  | imported, source :: rest =>
    source.offer installed imported :: offers installed (source.after installed imported) rest

/-- What is imported after some sources. -/
def importedAfter (installed : Installed) (imported : Imported) (sources : List Source) :
    Imported :=
  sources.foldl (fun imported source => source.after installed imported) imported

variable {installed : Installed} {imported : Imported} {holdings : Holdings} {source : Source}
  {sources others : List Source}

lemma offers_append (installed : Installed) (imported : Imported) (sources others : List Source) :
    offers installed imported (sources ++ others)
      = offers installed imported sources
        ++ offers installed (importedAfter installed imported sources) others := by
  induction sources generalizing imported with
  | nil => rfl
  | cons source rest ih =>
      rw [List.cons_append, offers, offers, ih]
      rfl

/-- Every source has one offer, in order. -/
lemma map_source_offers (installed : Installed) (imported : Imported) (sources : List Source) :
    (offers installed imported sources).map Offer.source = sources := by
  induction sources generalizing imported with
  | nil => rfl
  | cons source rest ih =>
      rw [offers, List.map_cons, ih]
      rfl

/-! ## Loading one source -/

/-- Clients that can be registered, in a collection of things where all can. -/
lemma registrableClients_filter {items : List ExportItem} (h : ExportItem.unregistrable ∉ items) :
    registrableClients (items.filter ExportItem.isClient)
      = (items.filterMap ExportItem.client?, true) := by
  induction items with
  | nil => rfl
  | cons item rest ih =>
      rw [List.mem_cons, not_or] at h
      cases item with
      | client client =>
          rw [List.filter_cons_of_pos rfl, registrableClients, ih h.2,
            List.filterMap_cons_some (by rfl)]
      | unregistrable => exact absurd rfl h.1
      | foreign =>
          rw [List.filter_cons_of_neg (by decide), ih h.2, List.filterMap_cons_none (by rfl)]

/-- **Registering what a source gives**, when all of its clients can be registered. -/
lemma registerExport_of_isRegistrable (holdings : Holdings) (name : String) {given : Export}
    (h : given.IsRegistrable) :
    (registerExport holdings name given).outcome = .ok given.clients?.isSome
      ∧ (registerExport holdings name given).holdings
        = ⟨holdings.registry.registerAll (given.clients?.getD []), holdings.imported⟩ := by
  cases given with
  | nothing => exact ⟨rfl, rfl⟩
  | single => exact ⟨rfl, rfl⟩
  | collection items =>
      rw [registerExport, clientsOf]
      simp only [registrableClients_filter h]
      exact ⟨rfl, rfl⟩

lemma isRegistrable_of_registerExport {name : String} {given : Export} {outcome : Bool}
    (h : (registerExport holdings name given).outcome = .ok outcome) : given.IsRegistrable := by
  cases given with
  | nothing => trivial
  | single => trivial
  | collection items =>
      intro hbad
      have hbad' : ExportItem.unregistrable ∈ items.filter ExportItem.isClient :=
        List.mem_filter.2 ⟨hbad, rfl⟩
      rw [registerExport, clientsOf] at h
      dsimp only at h
      rw [if_neg fun hall => registrableClients_snd _ |>.1 hall hbad'] at h
      contradiction

/-- A source that cannot be loaded registers nothing. -/
lemma Source.load_of_given?_eq_none (h : source.given? installed holdings.imported = none) :
    (source.load installed holdings).outcome = .ok false
      ∧ (source.load installed holdings).holdings
        = ⟨holdings.registry, source.after installed holdings.imported⟩ := by
  cases source with
  | package name =>
      rw [given?, Option.map_eq_none_iff] at h
      rw [load, loadPackage, after]
      dsimp only
      rcases himport : installed.importPackage holdings.imported (fullName name) with ⟨_ | _, _⟩
      · exact ⟨rfl, rfl⟩
      · rw [himport] at h
        contradiction
  | entryPoint point =>
      rw [given?] at h
      rw [load, loadEntryPoint, after]
      rcases hload : point.load installed holdings.imported with ⟨_ | _, _⟩
      · exact ⟨rfl, rfl⟩
      · rw [hload] at h
        contradiction

/-- A source that can be loaded registers what it gives. -/
lemma Source.exists_load_of_given? {given : Export}
    (h : source.given? installed holdings.imported = some given) :
    ∃ name, (source.load installed holdings).outcome
        = (registerExport ⟨holdings.registry, source.after installed holdings.imported⟩ name
            given).outcome
      ∧ (source.load installed holdings).holdings
        = (registerExport ⟨holdings.registry, source.after installed holdings.imported⟩ name
            given).holdings := by
  cases source with
  | package name =>
      refine ⟨fullName name, ?_⟩
      rw [given?, Option.map_eq_some_iff] at h
      obtain ⟨found, hfound, hgiven⟩ := h
      rw [load, loadPackage, after]
      dsimp only
      rcases himport : installed.importPackage holdings.imported (fullName name) with ⟨_ | _, _⟩
      · rw [himport] at hfound
        contradiction
      · rw [himport] at hfound hgiven
        obtain rfl := Option.some.inj hfound
        dsimp only at hgiven ⊢
        rw [hgiven, Loaded.andThen]
        split <;> exact ⟨Eq.symm (by assumption), rfl⟩
  | entryPoint point =>
      refine ⟨point.name, ?_⟩
      rw [given?] at h
      rw [load, loadEntryPoint, after]
      rcases hload : point.load installed holdings.imported with ⟨_ | _, _⟩
      · rw [hload] at h
        contradiction
      · rw [hload] at h
        obtain rfl := Option.some.inj h
        exact ⟨rfl, rfl⟩

/-- **Loading one source** registers its clients, all of them or none, and comes to its end. -/
theorem Source.load_of_isRegistrable
    (h : (source.offer installed holdings.imported).IsRegistrable) :
    (source.load installed holdings).outcome
        = .ok (source.offer installed holdings.imported).succeeds
      ∧ (source.load installed holdings).holdings
        = ⟨holdings.registry.registerAll (source.offer installed holdings.imported).clients,
            source.after installed holdings.imported⟩ := by
  rw [Offer.succeeds, Offer.clients, Offer.clients?, offer]
  cases hgiven : source.given? installed holdings.imported with
  | none => exact load_of_given?_eq_none hgiven
  | some given =>
      obtain ⟨name, houtcome, hholdings⟩ := exists_load_of_given? hgiven
      rw [houtcome, hholdings]
      exact registerExport_of_isRegistrable _ name (h given hgiven)

lemma Source.isRegistrable_of_load {outcome : Bool}
    (h : (source.load installed holdings).outcome = .ok outcome) :
    (source.offer installed holdings.imported).IsRegistrable := by
  intro given hgiven
  obtain ⟨name, houtcome, -⟩ := exists_load_of_given? hgiven
  exact isRegistrable_of_registerExport (houtcome.symm.trans h)

/-! ## Loading sources one after the other -/

namespace Loaded

variable {α β : Type}

@[simp] lemma andThen_done (loaded : Loaded α) : loaded.andThen done = loaded := by
  rcases loaded with ⟨holdings, failure | outcome, log⟩
  · rfl
  · simp [andThen, done]

/-- What a loading comes to, step by step. -/
lemma outcome_andThen_eq_ok_iff {loaded : Loaded α} {next : Holdings → α → Loaded β} {b : β} :
    (loaded.andThen next).outcome = .ok b
      ↔ ∃ a, loaded.outcome = .ok a ∧ (next loaded.holdings a).outcome = .ok b := by
  rcases loaded with ⟨holdings, failure | outcome, log⟩ <;> simp [andThen]

lemma holdings_andThen {loaded : Loaded α} {next : Holdings → α → Loaded β} {a : α}
    (h : loaded.outcome = .ok a) :
    (loaded.andThen next).holdings = (next loaded.holdings a).holdings := by
  rw [andThen, h]

end Loaded

/-- **Loading sources one after the other**; the outcome of each. -/
def loadSources (installed : Installed) : Holdings → List Source → Loaded (List (String × Bool))
  | holdings, [] => .done holdings []
  | holdings, source :: rest =>
    (source.load installed holdings).andThen fun holdings isLoaded =>
      (loadSources installed holdings rest).andThen fun holdings entries =>
        .done holdings ((source.name, isLoaded) :: entries)

lemma Registry.registerAll_append (registry : Registry) (clients others : List Client) :
    registry.registerAll (clients ++ others) = (registry.registerAll clients).registerAll others :=
  List.foldl_append

/-- **The sources are loaded to the end, and the clients of their offers are registered, in order**,
if all of them can be registered. -/
theorem loadSources_of_isRegistrable
    (h : ∀ offer ∈ offers installed holdings.imported sources, offer.IsRegistrable) :
    (loadSources installed holdings sources).outcome
        = .ok ((offers installed holdings.imported sources).map Offer.entry)
      ∧ (loadSources installed holdings sources).holdings
        = ⟨holdings.registry.registerAll
              ((offers installed holdings.imported sources).flatMap Offer.clients),
            importedAfter installed holdings.imported sources⟩ := by
  induction sources generalizing holdings with
  | nil => exact ⟨rfl, rfl⟩
  | cons source rest ih =>
      rw [offers, List.forall_mem_cons] at h
      obtain ⟨hload, hleft⟩ := Source.load_of_isRegistrable h.1
      obtain ⟨hrest, hlast⟩ := @ih (source.load installed holdings).holdings
        (by rw [hleft]; exact h.2)
      have hboth : ((loadSources installed (source.load installed holdings).holdings rest).andThen
          fun holdings entries => Loaded.done holdings
            ((source.name, (source.offer installed holdings.imported).succeeds)
              :: entries)).holdings
          = (loadSources installed (source.load installed holdings).holdings rest).holdings := by
        rw [Loaded.holdings_andThen hrest]
        rfl
      rw [loadSources]
      refine ⟨Loaded.outcome_andThen_eq_ok_iff.2 ⟨_, hload, Loaded.outcome_andThen_eq_ok_iff.2
        ⟨_, hrest, ?_⟩⟩, ?_⟩
      · rw [hleft]
        rfl
      · rw [Loaded.holdings_andThen hload, Loaded.holdings_andThen hrest, hlast, hleft, offers,
          List.flatMap_cons, Registry.registerAll_append]
        rfl

/-- If the sources are loaded to the end, all their clients can be registered. -/
lemma isRegistrable_of_loadSources {entries : List (String × Bool)}
    (h : (loadSources installed holdings sources).outcome = .ok entries) :
    ∀ offer ∈ offers installed holdings.imported sources, offer.IsRegistrable := by
  induction sources generalizing holdings entries with
  | nil => exact fun offer ho => absurd ho List.not_mem_nil
  | cons source rest ih =>
      obtain ⟨isLoaded, hload, h⟩ := Loaded.outcome_andThen_eq_ok_iff.1 h
      obtain ⟨others, hrest, -⟩ := Loaded.outcome_andThen_eq_ok_iff.1 h
      have hregistrable := Source.isRegistrable_of_load hload
      have hafter := ih hrest
      rw [(Source.load_of_isRegistrable hregistrable).2] at hafter
      exact List.forall_mem_cons.2 ⟨hregistrable, hafter⟩

/-! ## Several packages -/

/-- The packages that have no outcome yet, each once. -/
def fresh (outcomes : Outcomes) (packages : List String) : List String :=
  (packages.filter fun package => !outcomes.any (·.1 == package)).eraseDups

lemma fresh_cons_of_any {outcomes : Outcomes} {package : String} {rest : List String}
    (h : outcomes.any (·.1 == package)) :
    fresh outcomes (package :: rest) = fresh outcomes rest := by
  rw [fresh, List.filter_cons_of_neg (by rw [h]; exact Bool.false_ne_true), fresh]

/-- A package that is loaded has an outcome from then on. -/
lemma fresh_cons_of_not_any {outcomes : Outcomes} {package : String} {rest : List String}
    (h : ¬ outcomes.any (·.1 == package)) (isLoaded : Bool) :
    fresh outcomes (package :: rest)
      = package :: fresh (outcomes ++ [(package, isLoaded)]) rest := by
  rw [fresh, List.filter_cons_of_pos (by rw [Bool.eq_false_iff.2 h]; rfl), List.eraseDups_cons,
    fresh, List.filter_filter]
  congr 3
  funext other
  rw [List.any_append, List.any_cons, List.any_nil, Bool.or_false, Bool.not_or, Bool.and_comm,
    BEq.comm (a := package)]

/-- **Loading packages in order, each name once**, is loading the ones that have no outcome yet, one
after the other. -/
lemma loadDistinct_eq (installed : Installed) (start : Loaded Outcomes) (packages : List String) :
    loadDistinct installed start packages
      = start.andThen fun holdings outcomes =>
          (loadSources installed holdings ((fresh outcomes packages).map .package)).andThen
            fun holdings entries => .done holdings (outcomes ++ entries) := by
  induction packages generalizing start with
  | nil =>
      simp only [fresh, List.filter_nil, List.eraseDups_nil, List.map_nil, loadSources,
        Loaded.done_andThen, List.append_nil]
      exact (Loaded.andThen_done start).symm
  | cons package rest ih =>
      refine (ih _).trans ?_
      rw [Loaded.andThen_assoc]
      congr 1
      funext holdings outcomes
      by_cases h : outcomes.any (·.1 == package)
      · rw [if_pos h, Loaded.done_andThen, fresh_cons_of_any h]
      · rw [if_neg h, Loaded.andThen_assoc]
        -- the name of the package is known from now on, whatever comes of it
        have hrest (isLoaded : Bool) : fresh outcomes (package :: rest)
          = package :: fresh (outcomes ++ [(package, isLoaded)]) rest :=
          fresh_cons_of_not_any h isLoaded
        rw [hrest true, List.map_cons, loadSources, Loaded.andThen_assoc]
        change Loaded.andThen (Source.load _ _ (.package package)) _ = _
        congr 1
        funext holdings isLoaded
        rw [Loaded.done_andThen, Loaded.andThen_assoc]
        simp only [Loaded.done_andThen, List.append_assoc, List.singleton_append]
        rw [← List.cons_inj_right package |>.1 ((hrest true).symm.trans (hrest isLoaded))]
        rfl

/-- The outcomes with several changed, one after the other. -/
def Outcomes.putAll (outcomes : Outcomes) (entries : List (String × Bool)) : Outcomes :=
  entries.foldl (fun all entry => all.put entry.1 entry.2) outcomes

/-- **Loading entry points in order** is loading sources one after the other. -/
lemma foldl_loadEntryPoint (installed : Installed) (start : Loaded Outcomes)
    (points : List EntryPoint) :
    points.foldl (fun loaded point => loaded.andThen fun holdings outcomes =>
        (loadEntryPoint installed holdings point).andThen fun holdings isLoaded =>
          .done holdings (outcomes.put point.name isLoaded)) start
      = start.andThen fun holdings outcomes =>
          (loadSources installed holdings (points.map .entryPoint)).andThen
            fun holdings entries => .done holdings (outcomes.putAll entries) := by
  induction points generalizing start with
  | nil =>
      simp only [List.map_nil, loadSources, Loaded.done_andThen]
      exact (Loaded.andThen_done start).symm
  | cons point rest ih =>
      refine (ih _).trans ?_
      rw [Loaded.andThen_assoc]
      congr 1
      funext holdings outcomes
      rw [Loaded.andThen_assoc, List.map_cons, loadSources, Loaded.andThen_assoc]
      change Loaded.andThen (Source.load _ _ (.entryPoint point)) _ = _
      congr 1
      funext holdings isLoaded
      rw [Loaded.done_andThen, Loaded.andThen_assoc]
      simp only [Loaded.done_andThen]
      rfl

/-! ## The sources of a loading -/

namespace Surroundings

/-- **The packages that are named**, and those of the environment; each once, where it is first
named. -/
def packageSources (around : Surroundings) (options : LoadOptions) (packages : List String) :
    List Source :=
  (packages ++ if options.fromEnvironment then around.env.packages else []).eraseDups.map .package

/-- The entry points that are listed, with what is reported. -/
def listing (around : Surroundings) (options : LoadOptions) : List EntryPoint × Log :=
  if options.fromEntryPoints then around.installed.entryPointsOf entryPointGroup else ([], [])

/-- **The entry points**, in order. -/
def entryPointSources (around : Surroundings) (options : LoadOptions) : List Source :=
  (around.listing options).1.map .entryPoint

/-- **All sources**: the packages, and then the entry points. -/
def allSources (around : Surroundings) (options : LoadOptions) (packages : List String) :
    List Source :=
  around.packageSources options packages ++ around.entryPointSources options

end Surroundings

/-- **Loading all sources, each once**: the packages, and then the entry points.  The outcome of an
entry point takes the place of others of its name. -/
def loadInOrder (around : Surroundings) (options : LoadOptions) (holdings : Holdings)
    (packages : List String) : Loaded Outcomes :=
  (loadSources around.installed holdings (around.packageSources options packages)).andThen
    fun holdings outcomes =>
      (Loaded.mk holdings (.ok ()) (around.listing options).2).andThen fun holdings _ =>
        (loadSources around.installed holdings (around.entryPointSources options)).andThen
          fun holdings points =>
            .done holdings (Outcomes.putAll outcomes (Outcomes.putAll [] points))

/-- **Loading packages is loading all sources in order, each once.** -/
theorem loadPackages_eq_loadInOrder (around : Surroundings) (options : LoadOptions)
    (holdings : Holdings) (packages : List String) :
    loadPackages around options holdings packages
      = loadInOrder around options holdings packages := by
  have hfresh (names : List String) : fresh [] names = names.eraseDups := by
    simp only [fresh, List.any_nil, Bool.not_false, List.filter_true]
  rw [loadPackages, loadInOrder, Surroundings.entryPointSources, Surroundings.listing,
    loadDistinct_eq, Loaded.done_andThen, hfresh]
  simp only [List.nil_append]
  by_cases hpoints : options.fromEntryPoints
  · rw [if_pos hpoints, if_pos hpoints, Loaded.andThen_assoc]
    simp only [Loaded.done_andThen, loadEntryPoints, foldl_loadEntryPoint, Loaded.andThen_assoc]
    rfl
  · rw [if_neg hpoints, if_neg hpoints, Loaded.andThen_done]
    simp only [List.map_nil, loadSources, Loaded.done_andThen]
    exact (Loaded.andThen_done _).symm

end ContainerClients
