import ContainerClients.Proofs.BestEffort
import ContainerClients.Proofs.ClientOrder
import ContainerClients.Proofs.IndependentSpecs

/-!
# Filling a registry again

A filling that comes to its end can be repeated on the registry that it leaves.  The second time the
native clients are registered over what is there, and a specification may have taken the id of one
of them.  That does no harm as long as no specification is made from the client of another: the
clients that the specifications look up are the same as before, and so the same ids are taken again.

* `Turn.registered_eq`, `Turn.failures_eq` — two reports of turns that come to the same.
* `Catalog.fill_of_loadPackages` — filling is loading packages, and then a run.
* `Surroundings.outcomes_of_alike` — offers that are alike have the same outcomes.
* `Catalog.Progress.Follows.agreeBut_registerAll` — native clients that are registered again change
  the clients of specifications only.
* `Catalog.fillSpecs_again` — the run after that comes to the same.
* **`Catalog.fill_again`** — the second filling reports and leaves what the first one did.
-/

namespace ContainerClients

open ContainerClients.Container

/-! ## Reports of turns that come to the same -/

namespace Turn

variable {turns others : List Turn} {report other : Report}

lemma firstSuccess_summary (turns : List Turn) (id : ClientId) :
    firstSuccess (turns.map summary) id = firstSuccess turns id := by
  rw [firstSuccess, firstSuccess, List.findIdx_map]
  congr 1
  exact funext fun turn => turn.succeedsFor_summary id

/-- The same ids are reported as registered, in the same order. -/
lemma registered_eq (hsame : turns.map summary = others.map summary) (h : report.Tells turns)
    (h' : other.Tells others) (hids : ∀ each ∈ turns, ∃ name, each.spec.id = .text name)
    (hids' : ∀ each ∈ others, ∃ name, each.spec.id = .text name) :
    report.registered = other.registered := by
  have hrising := List.pairwise_map.1 h.rising
  have hrising' := List.pairwise_map.1 h'.rising
  simp only [← firstSuccess_summary turns, hsame, firstSuccess_summary others] at hrising
  refine eq_of_pairwise_of_mem_iff (fun _ _ => Nat.lt_asymm) hrising hrising' fun id => ?_
  rw [h.mem_registered_iff hids, h'.mem_registered_iff hids', ← exists_succeedsFor_summary turns,
    hsame, exists_succeedsFor_summary]

/-- The same failures are reported, but for the ids that they list. -/
lemma failures_eq (hsame : turns.map summary = others.map summary) (h : report.Tells turns)
    (h' : other.Tells others) (id : ClientId) :
    (report.failure? id).map Failure.unlisted = (other.failure? id).map Failure.unlisted := by
  rw [h.failure?_eq, h'.failure?_eq, ← failure?_last?_summary turns, hsame, failure?_last?_summary]

end Turn

/-! ## Loading again -/

namespace Offer

lemma Alike.entry_eq {a b : Offer} (h : a.Alike b) : a.entry = b.entry := by
  rw [entry, entry, succeeds, succeeds, h.source_eq, h.clients?_eq]

lemma map_entry_of_alike {offers others : List Offer} (h : List.Forall₂ Alike offers others) :
    offers.map entry = others.map entry := by
  induction h with
  | nil => rfl
  | cons halike _ ih => rw [List.map_cons, List.map_cons, halike.entry_eq, ih]

end Offer

/-- **Offers that are alike have the same outcomes.** -/
lemma Surroundings.outcomes_of_alike {around : Surroundings} {options : LoadOptions}
    {packages : List String} {before after : Imported}
    (h : List.Forall₂ Offer.Alike (around.allOffers options before packages)
      (around.allOffers options after packages)) :
    around.outcomes options after packages = around.outcomes options before packages := by
  have hentries := Offer.map_entry_of_alike h
  rw [allOffers, allOffers, List.map_append, List.map_append] at hentries
  have hlength (imported : Imported) :
      ((around.named options imported packages).map Offer.entry).length
        = (around.packageSources options packages).length := by
    rw [List.length_map, ← map_source_offers around.installed imported
      (around.packageSources options packages), List.length_map]
    rfl
  obtain ⟨hnamed, hpoints⟩ :=
    List.append_inj hentries ((hlength before).trans (hlength after).symm)
  rw [outcomes, outcomes, hnamed, hpoints]

namespace Catalog

variable {around : Surroundings} {options : LoadOptions} {launcher : Launcher}
  {config : CatalogConfig} {holdings : Holdings} {specs : List ServerSpec} {names : List String}
  {packages : Outcomes} {first last : Progress}

/-- **Filling is loading packages, and then a run.** -/
lemma fill_of_loadPackages (hnames : leadingNames config.packages = (names, true))
    (hspecs : config.specs = .ok specs)
    (hload : (loadPackages around options holdings names).outcome = .ok packages) :
    fill around options launcher config holdings
      = fillSpecs config launcher
          ⟨(loadPackages around options holdings names).holdings, { packages },
            (loadPackages around options holdings names).log⟩ specs := by
  rw [fill, loadNamed, hnames]
  simp only [hload, hspecs]

/-- A filling that comes to its end has loaded its packages, all of them named by texts. -/
lemma exists_loadPackages_of_fill
    (h : fill around options launcher config holdings = (last, none)) :
    ∃ names packages, leadingNames config.packages = (names, true)
      ∧ (loadPackages around options holdings names).outcome = .ok packages := by
  rw [fill] at h
  cases hnames : leadingNames config.packages with
  | mk names areAll =>
      cases hload : (loadNamed around options holdings config.packages).outcome with
      | error failure =>
          simp only [hload] at h
          exact absurd (congrArg Prod.snd h) (Option.some_ne_none _)
      | ok packages =>
          rw [loadNamed, hnames] at hload
          cases areAll with
          | true => exact ⟨names, packages, rfl, hload⟩
          | false =>
              obtain ⟨_, -, hfailed⟩ := Loaded.outcome_andThen_eq_ok_iff.1 hload
              contradiction

/-! ## The run -/

/-- **Native clients that are registered again** change the clients of specifications only. -/
lemma Progress.Follows.agreeBut_registerAll {clients : List Client} {start : Registry}
    (hall : ServerSpec.Independent specs)
    (h : last.Follows (start.registerAll clients)
      (turns config launcher (start.registerAll clients) specs)) :
    (start.registerAll clients).AgreeBut specs
      (last.holdings.registry.registerAll clients) := by
  intro id hid
  have hothers : ∀ spec ∈ specs, ∀ own, ClientId.ofDatum? spec.id = some own →
      own.key ≠ id.key := by
    intro spec hspec own hown hkey
    obtain ⟨name, hname⟩ := hall.id_text spec hspec
    obtain rfl : own = .text name := by
      rw [hname] at hown
      exact (Option.some.inj hown).symm
    obtain rfl : id = .text name := ClientId.key_eq_text_iff.1 hkey.symm
    exact hid spec hspec hname
  rw [Registry.get?_registerAll last.holdings.registry,
    h.get?_eq_of_not (succeedsFor_eq_false_of_mem_turns hothers), Registry.get?_registerAll,
    ← Option.or_assoc, Option.or_self]

/-- **What a run leaves after the native clients are registered again** is what the one before left,
if both come to the same. -/
lemma Progress.Follows.get?_eq_get? {clients : List Client} {start : Registry}
    {turns others : List Turn}
    (h : last.Follows (first.holdings.registry.registerAll clients) others)
    (hsame : turns.map Turn.summary = others.map Turn.summary)
    (hfirst : first.Follows (start.registerAll clients) turns) (id : ClientId) :
    last.holdings.registry.get? id = first.holdings.registry.get? id := by
  have hlast : (Turn.last? (·.succeedsFor id) others).bind Turn.client?
      = (Turn.last? (·.succeedsFor id) turns).bind Turn.client? := by
    rw [← Turn.client?_last?_summary, ← hsame, Turn.client?_last?_summary]
  have hfound := hfirst.get?_eq id
  rw [h.get?_eq, hlast]
  cases hclient : (Turn.last? (·.succeedsFor id) turns).bind Turn.client? with
  | some client =>
      rw [hclient] at hfound
      exact hfound.symm
  | none =>
      -- no specification has taken the id, and registering it again makes no difference
      rw [hclient, Option.none_or] at hfound
      rw [Option.none_or, Registry.get?_registerAll, hfound, Registry.get?_registerAll,
        ← Option.or_assoc, Option.or_self]

/-- **A run after the native clients are registered again** comes to the same. -/
lemma fillSpecs_again {clients : List Client} {registry : Registry} {imported imported' : Imported}
    {log log' : Log} (hall : ServerSpec.Independent specs)
    (hfirst : fillSpecs config launcher
      ⟨⟨registry.registerAll clients, imported⟩, { packages }, log⟩ specs = (first, none)) :
    ∃ second, fillSpecs config launcher
        ⟨⟨first.holdings.registry.registerAll clients, imported'⟩, { packages }, log'⟩ specs
          = (second, none)
      ∧ second.report.registered = first.report.registered
      ∧ second.report.packages = first.report.packages
      ∧ (∀ id, (second.report.failure? id).map Failure.unlisted
          = (first.report.failure? id).map Failure.unlisted)
      ∧ ∀ id, second.holdings.registry.get? id = first.holdings.registry.get? id := by
  let start : Progress := ⟨⟨registry.registerAll clients, imported⟩, { packages }, log⟩
  let again : Progress :=
    ⟨⟨first.holdings.registry.registerAll clients, imported'⟩, { packages }, log'⟩
  have hfollows := (Progress.Follows.initial start.holdings packages log).fillSpecs hfirst
  rw [List.nil_append] at hfollows
  -- the turns of both runs come to what they come to at the start of the first one
  have hsame : (turns config launcher start.holdings.registry specs).map Turn.summary
      = (turns config launcher again.holdings.registry specs).map Turn.summary :=
    (map_summary_turns hall (List.Subset.refl specs) (.refl specs _)).trans
      (map_summary_turns hall (List.Subset.refl specs) (hfollows.agreeBut_registerAll hall)).symm
  have hpasses : ∀ each ∈ turns config launcher start.holdings.registry specs, each.passes :=
    (fillSpecs_eq_none_iff hall.id_text).1 (congrArg Prod.snd hfirst)
  obtain ⟨second, hsecond⟩ : ∃ second, fillSpecs config launcher again specs = (second, none) := by
    refine ⟨_, Prod.ext rfl ((fillSpecs_eq_none_iff hall.id_text).2 ?_)⟩
    rwa [← Turn.forall_passes_summary, ← hsame, Turn.forall_passes_summary]
  have hfollows' := (Progress.Follows.initial again.holdings packages log').fillSpecs hsecond
  rw [List.nil_append] at hfollows'
  have hpackages := (imported_and_packages_fillSpecs config launcher start specs).2
  have hpackages' := (imported_and_packages_fillSpecs config launcher again specs).2
  rw [hfirst] at hpackages
  rw [hsecond] at hpackages'
  exact ⟨second, hsecond,
    Turn.registered_eq hsame.symm hfollows'.tells hfollows.tells
      (id_text_of_mem_turns hall.id_text) (id_text_of_mem_turns hall.id_text),
    hpackages'.trans hpackages.symm,
    Turn.failures_eq hsame.symm hfollows'.tells hfollows.tells,
    hfollows'.get?_eq_get? hsame hfollows⟩

/-- **A filling can be repeated.**  Let no specification be made from the client of another, or of
its own, and let every package and entry point give the same clients both times.  If filling comes
to its end, then so it does on the registry that it leaves.  The same ids are reported as
registered, in the same order, the same packages, and the same ids as failed, each with the same
failure but for the ids that are listed as available; and under every id stands the client that
stood there. -/
theorem fill_again (hspecs : config.specs = .ok specs) (hall : ServerSpec.Independent specs)
    (hfirst : fill around options launcher config holdings = (first, none))
    (hsame : List.Forall₂ Offer.Alike
      (around.allOffers options holdings.imported (leadingNames config.packages).1)
      (around.allOffers options first.holdings.imported (leadingNames config.packages).1)) :
    ∃ second, fill around options launcher config first.holdings = (second, none)
      ∧ second.report.registered = first.report.registered
      ∧ second.report.packages = first.report.packages
      ∧ (∀ id, (second.report.failure? id).map Failure.unlisted
          = (first.report.failure? id).map Failure.unlisted)
      ∧ ∀ id, second.holdings.registry.get? id = first.holdings.registry.get? id := by
  obtain ⟨names, packages, hnames, hload⟩ := exists_loadPackages_of_fill hfirst
  rw [hnames] at hsame
  have hregistrable := isRegistrable_of_loadPackages hload
  obtain ⟨houtcome, hholdings⟩ := loadPackages_of_isRegistrable hregistrable
  obtain ⟨houtcome', hholdings'⟩ :=
    loadPackages_of_isRegistrable (Offer.forall_isRegistrable_of_alike hsame hregistrable)
  rw [fill_of_loadPackages hnames hspecs houtcome, hholdings] at hfirst
  rw [fill_of_loadPackages hnames hspecs houtcome', hholdings',
    Surroundings.outcomes_of_alike hsame, Offer.flatMap_clients_of_alike hsame]
  exact fillSpecs_again hall hfirst

/-- Specifications for Python: one takes the id of a native client, and one has an image without a
container name. -/
def pythonSpecs : List ServerSpec := [.plain "pylsp" "pyls" "pylsp -v", unnamedImageSpec]

/-- A configuration that loads the bundled package for Python. -/
def pythonOnly : CatalogConfig := { goOnly pythonSpecs with packages := [.text "python"] }

/-- A client that has taken the id of a native one has it again after the second filling. -/
theorem fill_again_python :
    let one := fill bundledOnly {} .standard pythonOnly .initial
    ServerSpec.Independent pythonSpecs
      ∧ one.2 = none
      ∧ (one.1.holdings.registry.get? (.text "pyls")).map (·.command) = some ["pylsp", "-v"]
      ∧ ∃ two, fill bundledOnly {} .standard pythonOnly one.1.holdings = (two, none)
        ∧ two.report.registered = [.text "pyls"]
        ∧ two.report.packages = [("python", true)]
        ∧ ((two.report.failure? (.text "unnamed")).map Failure.unlisted
          = some (.invalidServerSpec (.text "unnamed") (.imageWithoutName (.text "own"))))
        ∧ ∀ id, two.holdings.registry.get? id = one.1.holdings.registry.get? id := by
  intro one
  have hall : ServerSpec.Independent pythonSpecs := by
    refine ⟨?_, ?_⟩ <;> simp [pythonSpecs, unnamedImageSpec, ServerSpec.plain]
  have hends : one.2 = none := rfl
  have hregistered : one.1.report.registered = [.text "pyls"] := rfl
  have hpackages : one.1.report.packages = [("python", true)] := rfl
  have hfailure : one.1.report.failure? (.text "unnamed")
    = some (.invalidServerSpec (.text "unnamed") (.imageWithoutName (.text "own"))) := rfl
  have hcommand : (one.1.holdings.registry.get? (.text "pyls")).map (·.command)
    = some ["pylsp", "-v"] := rfl
  have halike : List.Forall₂ Offer.Alike
      (bundledOnly.allOffers {} Holdings.initial.imported ["python"])
      (bundledOnly.allOffers {} one.1.holdings.imported ["python"]) :=
    .cons ⟨rfl, rfl, id⟩ .nil
  obtain ⟨two, htwo, hregistered', hpackages', hfailure', hleft⟩ :=
    @fill_again bundledOnly {} .standard pythonOnly .initial pythonSpecs one.1 rfl hall
      (Prod.ext rfl hends) halike
  refine ⟨hall, hends, hcommand, two, htwo, hregistered'.trans hregistered,
    hpackages'.trans hpackages, ?_, hleft⟩
  rw [hfailure', hfailure]
  rfl

end Catalog

end ContainerClients
