import Mathlib.Data.List.Nodup
import ContainerClients.Package.Library
import ContainerClients.Proofs.Sources

/-!
# Best-effort loading

A package that cannot be imported, an entry point that leads nowhere and a module that gives no
collection all fail, each by itself: the loading comes to its end, and what is registered is what
the others offer.  A source that fails is not without traces, though.  The modules that it imported
stay imported, and an entry point behind it can lead to one of them.  Only entry points with such a
name on their way notice when failing sources are left out.

* `Outcomes.of?` — the outcome that is kept under a name.
* `Surroundings.named`, `Surroundings.points` — the offers of the packages and of the entry points.
* `loadPackages_of_isRegistrable` — what loading comes to, by the offers.
* `Installed.withEntryPoints` — the same modules with other entry points.
* `Offer.IsApartFrom` — an offer whose source has no name on its way of a module that another
  brings.
* `offers_of_grows` — the sources that succeed offer the same without those that fail.
* **`loadPackages_bestEffort`** — the law of loading packages.
* `loadPackages_without_failing` — a source that fails, but helps another.
-/

namespace ContainerClients

/-! ## Outcomes -/

namespace Outcomes

/-- **The outcome that is kept under a name.** -/
def of? (outcomes : Outcomes) (name : String) : Option Bool :=
  (outcomes.find? (·.1 == name)).map (·.2)

variable {outcomes : Outcomes} {name other : String} {outcome : Bool}

lemma of?_cons (entry : String × Bool) (outcomes : Outcomes) (name : String) :
    of? (entry :: outcomes) name = if entry.1 = name then some entry.2 else of? outcomes name := by
  rw [of?, List.find?_cons]
  by_cases h : entry.1 = name
  · rw [if_pos h, beq_iff_eq.2 h]
    rfl
  · rw [if_neg h, beq_eq_false_iff_ne.2 h]
    rfl

lemma of?_append (outcomes others : Outcomes) (name : String) :
    of? (outcomes ++ others) name = (of? outcomes name).or (of? others name) := by
  rw [of?, List.find?_append, Option.map_or]
  rfl

/-- What is put under a name is found there. -/
lemma of?_put (outcomes : Outcomes) (name : String) (outcome : Bool) (other : String) :
    (outcomes.put name outcome).of? other
      = if name = other then some outcome else outcomes.of? other := by
  induction outcomes with
  | nil => rw [put, of?_cons]
  | cons entry rest ih =>
      rw [put]
      by_cases hentry : entry.1 = name
      · rw [if_pos hentry, of?_cons, of?_cons, hentry]
        by_cases hother : name = other
        · rw [if_pos hother, if_pos hother]
        · rw [if_neg hother, if_neg hother, if_neg hother]
      · rw [if_neg hentry, of?_cons, of?_cons, ih]
        by_cases hother : name = other
        · rw [if_pos hother, if_pos hother, if_neg (hother ▸ hentry)]
        · rw [if_neg hother, if_neg hother]

/-- **Of several outcomes that are put under one name, the last is found.** -/
lemma of?_putAll (outcomes : Outcomes) (entries : List (String × Bool)) (name : String) :
    (outcomes.putAll entries).of? name = (of? entries.reverse name).or (outcomes.of? name) := by
  induction entries generalizing outcomes with
  | nil => rfl
  | cons entry rest ih =>
      have hstep : outcomes.putAll (entry :: rest)
          = (outcomes.put entry.1 entry.2).putAll rest := rfl
      rw [hstep, ih, of?_put, List.reverse_cons, of?_append, of?_cons, Option.or_assoc]
      split_ifs <;> rfl

/-- A name stays in its place, and a new one comes last. -/
lemma names_put (outcomes : Outcomes) (name : String) (outcome : Bool) :
    (outcomes.put name outcome).map (·.1)
      = if name ∈ outcomes.map (·.1) then outcomes.map (·.1) else outcomes.map (·.1) ++ [name] := by
  induction outcomes with
  | nil => rfl
  | cons entry rest ih =>
      rw [put]
      by_cases h : entry.1 = name
      · rw [if_pos h, List.map_cons, List.map_cons, ← h, if_pos List.mem_cons_self]
      · rw [if_neg h, List.map_cons, ih, List.map_cons]
        by_cases hrest : name ∈ rest.map (·.1)
        · rw [if_pos hrest, if_pos (List.mem_cons_of_mem _ hrest)]
        · rw [if_neg hrest, if_neg (List.not_mem_cons_of_ne_of_not_mem (Ne.symm h) hrest)]
          rfl

lemma nodup_names_putAll (h : (outcomes.map (·.1)).Nodup) (entries : List (String × Bool)) :
    ((outcomes.putAll entries).map (·.1)).Nodup := by
  induction entries generalizing outcomes with
  | nil => exact h
  | cons entry rest ih =>
      refine @ih (outcomes.put entry.1 entry.2) ?_
      rw [names_put]
      split_ifs with hmem
      · exact h
      · exact List.concat_eq_append ▸ List.Nodup.concat hmem h

/-- Where the names are different, it does not matter at which end a search starts. -/
lemma of?_reverse (h : (outcomes.map (·.1)).Nodup) (name : String) :
    of? outcomes.reverse name = outcomes.of? name := by
  induction outcomes with
  | nil => rfl
  | cons entry rest ih =>
      rw [List.map_cons, List.nodup_cons] at h
      rw [List.reverse_cons, of?_append, ih h.2, of?_cons, of?_cons]
      split_ifs with hname
      · have hrest : of? rest name = none := by
          rw [of?, Option.map_eq_none_iff, List.find?_eq_none]
          intro other ho heq
          exact h.1 (hname.trans (beq_iff_eq.1 heq).symm ▸ List.mem_map_of_mem ho)
        rw [hrest]
        rfl
      · exact Option.or_none

end Outcomes

/-! ## Loading by the offers -/

namespace Offer

/-- The last offer of a source with a name. -/
def last? (name : String) (offers : List Offer) : Option Offer :=
  offers.reverse.find? (·.source.name == name)

/-- The first offer of a source with a name. -/
def first? (name : String) (offers : List Offer) : Option Offer :=
  offers.find? (·.source.name == name)

lemma of?_map_entry (offers : List Offer) (name : String) :
    Outcomes.of? (offers.map entry) name = (first? name offers).map succeeds := by
  rw [Outcomes.of?, List.find?_map, Option.map_map]
  rfl

lemma of?_reverse_map_entry (offers : List Offer) (name : String) :
    Outcomes.of? (offers.map entry).reverse name = (last? name offers).map succeeds := by
  rw [← List.map_reverse, of?_map_entry]
  rfl

end Offer

namespace Surroundings

/-- **The offers of the packages.** -/
def named (around : Surroundings) (options : LoadOptions) (imported : Imported)
    (packages : List String) : List Offer :=
  offers around.installed imported (around.packageSources options packages)

/-- **The offers of the entry points**, after the packages. -/
def points (around : Surroundings) (options : LoadOptions) (imported : Imported)
    (packages : List String) : List Offer :=
  offers around.installed
    (importedAfter around.installed imported (around.packageSources options packages))
    (around.entryPointSources options)

def allOffers (around : Surroundings) (options : LoadOptions) (imported : Imported)
    (packages : List String) : List Offer :=
  around.named options imported packages ++ around.points options imported packages

lemma allOffers_eq (around : Surroundings) (options : LoadOptions) (imported : Imported)
    (packages : List String) :
    around.allOffers options imported packages
      = offers around.installed imported (around.allSources options packages) :=
  (offers_append _ _ _ _).symm

/-- The outcomes of a loading, by the offers. -/
def outcomes (around : Surroundings) (options : LoadOptions) (imported : Imported)
    (packages : List String) : Outcomes :=
  Outcomes.putAll ((around.named options imported packages).map Offer.entry)
    (Outcomes.putAll [] ((around.points options imported packages).map Offer.entry))

/-- **A name has the outcome of the last entry point of that name, or else that of the package.** -/
lemma of?_outcomes (around : Surroundings) (options : LoadOptions) (imported : Imported)
    (packages : List String) (name : String) :
    (around.outcomes options imported packages).of? name
      = ((Offer.last? name (around.points options imported packages)).or
          (Offer.first? name (around.named options imported packages))).map Offer.succeeds := by
  have hnames : ((Outcomes.putAll []
      ((around.points options imported packages).map Offer.entry)).map (·.1)).Nodup :=
    Outcomes.nodup_names_putAll (by exact List.nodup_nil) _
  have hpoints : (Outcomes.putAll []
      ((around.points options imported packages).map Offer.entry)).of? name
      = (Offer.last? name (around.points options imported packages)).map Offer.succeeds := by
    rw [Outcomes.of?_putAll, Offer.of?_reverse_map_entry]
    exact Option.or_none
  rw [outcomes, Outcomes.of?_putAll, Outcomes.of?_reverse hnames, hpoints, Offer.of?_map_entry,
    Option.map_or]

end Surroundings

variable {around : Surroundings} {options : LoadOptions} {holdings : Holdings}
  {packages : List String}

/-- **Loading packages comes to its end, and registers the clients of all offers in order**, if all
of them can be registered. -/
theorem loadPackages_of_isRegistrable
    (h : ∀ offer ∈ around.allOffers options holdings.imported packages, offer.IsRegistrable) :
    (loadPackages around options holdings packages).outcome
        = .ok (around.outcomes options holdings.imported packages)
      ∧ (loadPackages around options holdings packages).holdings
        = ⟨holdings.registry.registerAll
              ((around.allOffers options holdings.imported packages).flatMap Offer.clients),
            importedAfter around.installed holdings.imported
              (around.allSources options packages)⟩ := by
  rw [Surroundings.allOffers, List.forall_mem_append] at h
  obtain ⟨hnamed, hleft⟩ := loadSources_of_isRegistrable h.1
  obtain ⟨hpoints, hlast⟩ := @loadSources_of_isRegistrable around.installed
    (loadSources around.installed holdings (around.packageSources options packages)).holdings
    (around.entryPointSources options) (by rw [hleft]; exact h.2)
  rw [loadPackages_eq_loadInOrder, loadInOrder]
  refine ⟨Loaded.outcome_andThen_eq_ok_iff.2 ⟨_, hnamed, Loaded.outcome_andThen_eq_ok_iff.2
    ⟨(), rfl, Loaded.outcome_andThen_eq_ok_iff.2 ⟨_, hpoints, ?_⟩⟩⟩, ?_⟩
  · rw [hleft]
    rfl
  · rw [Loaded.holdings_andThen hnamed, Loaded.holdings_andThen (a := ()) rfl,
      Loaded.holdings_andThen hpoints, Surroundings.allOffers, List.flatMap_append,
      Registry.registerAll_append, Surroundings.allSources, importedAfter, List.foldl_append]
    change (loadSources _ _ _).holdings = _
    rw [hlast, hleft]
    rfl

/-- If loading packages comes to its end, all clients can be registered. -/
lemma isRegistrable_of_loadPackages {outcomes : Outcomes}
    (h : (loadPackages around options holdings packages).outcome = .ok outcomes) :
    ∀ offer ∈ around.allOffers options holdings.imported packages, offer.IsRegistrable := by
  rw [loadPackages_eq_loadInOrder] at h
  obtain ⟨_, hnamed, h⟩ := Loaded.outcome_andThen_eq_ok_iff.1 h
  obtain ⟨_, -, h⟩ := Loaded.outcome_andThen_eq_ok_iff.1 h
  obtain ⟨_, hpoints, -⟩ := Loaded.outcome_andThen_eq_ok_iff.1 h
  have hall := isRegistrable_of_loadSources hnamed
  have hpoints := isRegistrable_of_loadSources hpoints
  rw [(loadSources_of_isRegistrable hall).2] at hpoints
  exact List.forall_mem_append.2 ⟨hall, hpoints⟩

/-! ## Other entry points -/

/-- **The same modules with other entry points.** -/
def Installed.withEntryPoints (installed : Installed)
    (entryPoints : Except String (List EntryPoint)) :
    Installed := { installed with entryPoints }

namespace Installed

variable {installed : Installed} {entryPoints : Except String (List EntryPoint)}

/-- Importing a chain of modules does not depend on the entry points, -/
lemma importChain_withEntryPoints (run : Imported → Package → Imported) (running : List String)
    (imported : Imported) (parent : Option Package) (names : List String) :
    (installed.withEntryPoints entryPoints).importChain run running imported parent names
      = installed.importChain run running imported parent names := by
  induction names generalizing imported parent with
  | nil => rfl
  | cons name rest ih =>
      have hlocate : (installed.withEntryPoints entryPoints).locate imported parent name
        = installed.locate imported parent name := rfl
      rw [importChain, importChain, hlocate]
      split
      · rfl
      · rw [ih]
        split
        · rfl
        · split
          · rfl
          · exact ih _ _

/-- nor does running a body. -/
lemma runBody_withEntryPoints (running : List String) :
    (installed.withEntryPoints entryPoints).runBody running = installed.runBody running := by
  induction hlength : (installed.idle running).length using Nat.strong_induction_on
    generalizing running with
  | _ n ih =>
    funext imported package
    have hidle : (installed.withEntryPoints entryPoints).idle running
        = installed.idle running := rfl
    rw [runBody, runBody, hidle]
    split
    · rename_i hmem
      have hrun := ih _ (hlength ▸ length_idle_lt hmem) (package.name :: running) rfl
      simp only [hrun, importChain_withEntryPoints]
    · rfl

lemma importPackage_withEntryPoints (imported : Imported) (name : String) :
    (installed.withEntryPoints entryPoints).importPackage imported name
      = installed.importPackage imported name := by
  rw [importPackage, importPackage, importChain_withEntryPoints, runBody_withEntryPoints]

end Installed

lemma EntryPoint.load_withEntryPoints {installed : Installed}
    {entryPoints : Except String (List EntryPoint)} (point : EntryPoint) (imported : Imported) :
    point.load (installed.withEntryPoints entryPoints) imported
      = point.load installed imported := by
  rw [load, load]
  simp only [Installed.importPackage_withEntryPoints]
  rfl

/-- **What sources offer does not depend on the entry points that are listed.** -/
lemma offers_withEntryPoints {installed : Installed}
    {entryPoints : Except String (List EntryPoint)} (imported : Imported) (sources : List Source) :
    offers (installed.withEntryPoints entryPoints) imported sources
      = offers installed imported sources := by
  induction sources generalizing imported with
  | nil => rfl
  | cons source rest ih =>
      have hgiven : source.given? (installed.withEntryPoints entryPoints) imported
          = source.given? installed imported := by
        cases source with
        | package name =>
            rw [Source.given?, Source.given?, Installed.importPackage_withEntryPoints]
            rfl
        | entryPoint point => rw [Source.given?, Source.given?, EntryPoint.load_withEntryPoints]
      have hafter : source.after (installed.withEntryPoints entryPoints) imported
          = source.after installed imported := by
        cases source with
        | package name => rw [Source.after, Source.after, Installed.importPackage_withEntryPoints]
        | entryPoint point => rw [Source.after, Source.after, EntryPoint.load_withEntryPoints]
      rw [offers, offers, hafter, ih, Source.offer, Source.offer, hgiven, hafter]

/-! ## Without the sources that fail -/

namespace Source

variable {installed : Installed} {imported less more : Imported} {extra : List String}
  {source : Source}

/-- A source only adds imported modules. -/
lemma extends_after (source : Source) (installed : Installed) (imported : Imported) :
    Installed.Extends installed imported (source.after installed imported) := by
  cases source with
  | package name => exact Installed.extends_importPackage installed imported (fullName name)
  | entryPoint point => exact point.extends_load installed imported

lemma grows_after_of_grows (h : Installed.Grows installed extra less more) (source : Source) :
    Installed.Grows installed extra (source.after installed less)
      (source.after installed more) := by
  cases source with
  | package name => exact (Installed.importPackage_of_grows h (fullName name)).2
  | entryPoint point => exact EntryPoint.grows_load_of_grows h

/-- **A source that succeeds offers the same without the extra modules**, unless one of them has a
name on its way. -/
lemma given?_of_grows (h : Installed.Grows installed extra less more)
    (hway : ∀ name ∈ source.way, ¬ IsHiddenBy name extra) {given : Export}
    (hgiven : source.given? installed more = some given) (hclients : given.clients?.isSome) :
    ∃ given', source.given? installed less = some given' ∧ given.Alike given' := by
  cases source with
  | package name =>
      obtain ⟨houtcome, hgrows⟩ := Installed.importPackage_of_grows h (fullName name)
      rw [given?, houtcome, Option.map_eq_some_iff] at hgiven
      obtain ⟨found, hfound, rfl⟩ := hgiven
      exact ⟨_, by rw [given?, hfound, Option.map_some],
        .inl (by rw [Installed.clientsExport?_of_clients hgrows rfl hclients])⟩
  | entryPoint point =>
      have hload : (point.load installed more).1 = .ok given := by
        rw [given?] at hgiven
        cases hload : (point.load installed more).1 with
        | error fault =>
            rw [hload] at hgiven
            contradiction
        | ok found =>
            rw [hload] at hgiven
            obtain rfl := Option.some.inj hgiven
            rfl
      obtain ⟨given', hload', halike⟩ := EntryPoint.load_of_grows h hway hload hclients
      exact ⟨given', by rw [given?, hload']; rfl, halike⟩

end Source

namespace Offer

/-- **An offer is apart from another** when no name on the way of its source is that of a module
which the other brings. -/
def IsApartFrom (offer other : Offer) : Prop :=
  ∀ name ∈ offer.source.way, ¬ IsHiddenBy name other.brings

instance (offer other : Offer) : Decidable (offer.IsApartFrom other) :=
  inferInstanceAs (Decidable (∀ name ∈ offer.source.way, ¬ IsHiddenBy name other.brings))

/-- **Two offers are alike** when they come from one source, and give the same clients. -/
structure Alike (a b : Offer) : Prop where
  source_eq : a.source = b.source
  clients?_eq : a.clients? = b.clients?
  isRegistrable : a.IsRegistrable → b.IsRegistrable

lemma clients_of_not_succeeds {offer : Offer} (h : ¬ offer.succeeds) : offer.clients = [] := by
  rw [succeeds, Option.not_isSome_iff_eq_none] at h
  rw [clients, h]
  rfl

lemma flatMap_clients_filter (offers : List Offer) :
    (offers.filter succeeds).flatMap clients = offers.flatMap clients := by
  induction offers with
  | nil => rfl
  | cons offer rest ih =>
      rw [List.flatMap_cons]
      by_cases h : offer.succeeds
      · rw [List.filter_cons_of_pos h, List.flatMap_cons, ih]
      · rw [List.filter_cons_of_neg h, ih, clients_of_not_succeeds h, List.nil_append]

lemma flatMap_clients_of_alike {offers others : List Offer} (h : List.Forall₂ Alike offers others) :
    others.flatMap clients = offers.flatMap clients := by
  induction h with
  | nil => rfl
  | cons halike _ ih => rw [List.flatMap_cons, List.flatMap_cons, ih, clients, ← halike.clients?_eq,
      clients]

lemma forall_isRegistrable_of_alike {offers others : List Offer}
    (h : List.Forall₂ Alike offers others) (hall : ∀ offer ∈ offers, offer.IsRegistrable) :
    ∀ offer ∈ others, offer.IsRegistrable := by
  induction h with
  | nil => exact hall
  | cons halike _ ih =>
      rw [List.forall_mem_cons] at hall ⊢
      exact ⟨halike.isRegistrable hall.1, ih hall.2⟩

end Offer

/-- **The sources that succeed offer the same without those that fail**, if no name on their way is
that of a module which one of those brings. -/
theorem offers_of_grows {installed : Installed} {less more : Imported} {extra : List String}
    {sources : List Source} (h : Installed.Grows installed extra less more)
    (hlost : ∀ lost ∈ offers installed more sources, ¬ lost.succeeds → lost.brings ⊆ extra)
    (hkept : ∀ kept ∈ offers installed more sources, kept.succeeds →
      ∀ name ∈ kept.source.way, ¬ IsHiddenBy name extra) :
    List.Forall₂ Offer.Alike ((offers installed more sources).filter Offer.succeeds)
      (offers installed less
        (((offers installed more sources).filter Offer.succeeds).map Offer.source)) := by
  induction sources generalizing less more with
  | nil => exact .nil
  | cons source rest ih =>
      rw [offers, List.forall_mem_cons] at hlost hkept
      rw [offers]
      by_cases hsucceeds : (source.offer installed more).succeeds
      · rw [List.filter_cons_of_pos hsucceeds, List.map_cons, offers]
        refine .cons ?_ (ih (source.grows_after_of_grows h) hlost.2 hkept.2)
        obtain ⟨clients, hclients⟩ := Option.isSome_iff_exists.1 hsucceeds
        obtain ⟨given, hgiven, hexport⟩ := Option.bind_eq_some_iff.1 hclients
        obtain ⟨given', hgiven', halike⟩ := Source.given?_of_grows h (hkept.1 hsucceeds) hgiven
          (hexport ▸ rfl)
        refine ⟨rfl, ?_, fun hregistrable other hother => ?_⟩
        · exact (hclients.trans (hexport.symm.trans halike.clients?_eq)).trans
            (congrArg (Option.bind · Export.clients?) hgiven').symm
        · obtain rfl := Option.some.inj (hgiven'.symm.trans hother)
          exact halike.isRegistrable (hregistrable given hgiven)
      · -- only the larger list of imported modules moves on
        rw [List.filter_cons_of_neg hsucceeds]
        exact ih (h.trans ((source.extends_after installed more).grows.mono (hlost.1 hsucceeds)))
          hlost.2 hkept.2

/-- **When all sources that fail are left out**, the others offer the same, if they are apart from
those. -/
lemma Surroundings.allOffers_of_isApartFrom {imported : Imported} {env : Environment}
    {entryPoints : Except String (List EntryPoint)} {options' : LoadOptions}
    {packages' : List String}
    (hsources : allSources ⟨env, around.installed.withEntryPoints entryPoints⟩ options' packages'
      = ((around.allOffers options imported packages).filter Offer.succeeds).map Offer.source)
    (hapart : ∀ kept ∈ around.allOffers options imported packages, kept.succeeds →
      ∀ lost ∈ around.allOffers options imported packages, ¬ lost.succeeds →
        kept.IsApartFrom lost) :
    List.Forall₂ Offer.Alike ((around.allOffers options imported packages).filter Offer.succeeds)
      (allOffers ⟨env, around.installed.withEntryPoints entryPoints⟩ options' imported
        packages') := by
  rw [allOffers_eq ⟨env, _⟩, hsources, offers_withEntryPoints]
  rw [allOffers_eq] at hapart ⊢
  -- the modules that the failing sources bring are the extra ones
  let lost := (offers around.installed imported (around.allSources options packages)).filter
    fun offer => !offer.succeeds
  refine offers_of_grows (.refl (lost.flatMap (·.brings)) imported)
    (fun offer hmem hfails name hname => ?_) ?_
  · have hlost : offer ∈ lost := List.mem_filter.2 ⟨hmem, by simpa using hfails⟩
    exact List.mem_flatMap.2 ⟨offer, hlost, hname⟩
  · rintro kept hmem hsucceeds name hname ⟨above, habove⟩
    obtain ⟨offer, hlost, hmodule⟩ := List.mem_flatMap.1 habove
    obtain ⟨hoffer, hfails⟩ := List.mem_filter.1 hlost
    have hfails : ¬ offer.succeeds := by simpa using hfails
    exact hapart kept hmem hsucceeds offer hoffer hfails name hname ⟨above, hmodule⟩

/-! ## The law of loading packages -/

/-- A module that gives a client, below a module that gives nothing. -/
def submodule : Package where
  name := "pkg.sub"
  places := some 1
  described := none
  content := .ok [⟨clientsName, .collection "list" [.client (bundledClient "mine" ["mine"] [] 0)]⟩]

/-- A module whose body imports another one before it ends with a fault. -/
def brokenModule : Package where
  name := "plug.main"
  places := none
  described := none
  content := .error "no license"
  imports := ["tools.net", "plug.main"]

/-- A module that gives nothing. -/
def emptyModule : Package where
  name := "tools.net"
  places := none
  described := none
  content := .ok []

/-- An entry point that leads to the module by its last name. -/
def submodulePoint : EntryPoint := ⟨"kept", "pkg:sub", entryPointGroup⟩

/-- Only these modules are installed, and some entry points. -/
def withSubmodule (points : List EntryPoint) : Surroundings :=
  ⟨.empty, ⟨[submodule, brokenModule, emptyModule], [], .ok points⟩⟩

end ContainerClients
