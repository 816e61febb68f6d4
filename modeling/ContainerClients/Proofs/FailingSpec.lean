import ContainerClients.Package.Library
import ContainerClients.Proofs.Rereading
import ContainerClients.Proofs.TextIds

/-!
# A specification that fails

A specification that cannot be used is meant to drop only its own client: the others are registered
as if it were not there, and its failure is reported.  That is so for every failure of the library's
own.  A command that cannot be cut into words is none of them, and ends the filling.

* `Report.failure?` — the failure that is reported for an id.
* `Catalog.Progress.AgreesBut` — two fillings differ at most in what is reported of one id; one more
  specification, and any number of them, keep to that.
* `ServerSpec.IsTyped`, `CatalogConfig.IsTyped` — values as they are meant to be given.
* `Catalog.registerSpec_of_isTyped` — such a specification succeeds, fails with a failure of the
  library's own, or has a command that cannot be cut.
* **`Catalog.fill_failing_spec`** — what becomes of the others, and
  `Catalog.fill_failing_spec_fails` — where it goes wrong.
-/

namespace ContainerClients

open ContainerClients.Container

/-! ## What is reported of an id -/

namespace Report

/-- **The failure that is reported for an id.** -/
def failure? (report : Report) (id : ClientId) : Option Failure :=
  (report.failures.find? (·.1.key == id.key)).map (·.2)

lemma find?_putFailure (id : ClientId) (failure : Failure) (entries : List (ClientId × Failure))
    (key : ClientId.Key) :
    ((putFailure id failure entries).find? (·.1.key == key)).map (·.2)
      = if id.key = key then some failure
        else (entries.find? (·.1.key == key)).map (·.2) := by
  induction entries with
  | nil => by_cases h : id.key = key <;> simp [putFailure, h]
  | cons entry rest ih =>
      rw [putFailure]
      by_cases he : entry.1.key = id.key
      · rw [if_pos he]
        by_cases h : id.key = key
        · simp [he, h]
        · simp [he, h]
      · rw [if_neg he]
        by_cases h : id.key = key
        · rw [if_pos h] at ih ⊢
          rw [List.find?_cons_of_neg (by simpa using fun hk => he (hk.trans h.symm)), ih]
        · rw [if_neg h] at ih ⊢
          by_cases hk : entry.1.key = key
          · simp [hk]
          · rw [List.find?_cons_of_neg (by simpa using hk), ih,
              List.find?_cons_of_neg (by simpa using hk)]

/-- **A failure is reported under its own id.** -/
lemma failure?_fail (report : Report) (id d : ClientId) (failure : Failure) :
    (report.fail id failure).failure? d
      = if id.key = d.key then some failure else report.failure? d :=
  find?_putFailure id failure report.failures d.key

/-- A success takes back only the failure of its own id. -/
lemma failure?_succeed {report : Report} {id d : ClientId} (h : id.key ≠ d.key) :
    (report.succeed id).failure? d = report.failure? d := by
  rw [failure?, succeed, List.find?_filter]
  congr 2
  funext entry
  by_cases hk : entry.1.key = d.key
  · simp [hk, h.symm]
  · simp [hk]

/-- What is reported of other ids, when a failure is put among the others. -/
lemma filter_putFailure (id : ClientId) (failure : Failure) (entries : List (ClientId × Failure))
    (key : ClientId.Key) :
    (putFailure id failure entries).filter (·.1.key != key)
      = if id.key = key then entries.filter (·.1.key != key)
        else putFailure id failure (entries.filter (·.1.key != key)) := by
  induction entries with
  | nil => by_cases h : id.key = key <;> simp [putFailure, h]
  | cons entry rest ih =>
      by_cases he : entry.1.key = id.key
      · by_cases h : id.key = key <;> simp [putFailure, he, h]
      · rw [putFailure, if_neg he, List.filter_cons, List.filter_cons, ih]
        by_cases h : id.key = key
        · rw [if_pos h, if_pos h]
        · rw [if_neg h, if_neg h]
          by_cases hk : entry.1.key = key
          · simp [hk]
          · simp [hk, putFailure, he]

end Report

namespace Catalog

variable {config : CatalogConfig} {launcher : Launcher} {registry : Registry} {spec : ServerSpec}
  {progress last p q : Progress} {failure : Failure} {specs : List ServerSpec}
  {key : ClientId.Key} {name : String}

/-! ## Fillings that differ in one id -/

/-- **Two fillings agree** but for what is reported of one id. -/
structure Progress.AgreesBut (key : ClientId.Key) (p q : Progress) : Prop where
  /-- the same is registered and imported -/
  holdings_eq : p.holdings = q.holdings
  /-- the same ids are reported as registered -/
  registered_eq : p.report.registered = q.report.registered
  /-- the same is reported of the packages -/
  packages_eq : p.report.packages = q.report.packages
  /-- the same failures of other ids are reported, in the same order -/
  failures_eq : p.report.failures.filter (·.1.key != key)
    = q.report.failures.filter (·.1.key != key)

namespace Progress

/-- Passing over a specification is recorded under its id. -/
lemma skip_text (progress : Progress) (name : String) (failure : Failure) :
    progress.skip (.text name) failure
      = ({ progress with
            report := progress.report.fail (.text name) failure
            log := progress.log ++ [.skipping name failure] }, none) := rfl

/-- A specification that is passed over is missing, and nothing else is. -/
lemma agreesBut_skip (progress : Progress) (name : String) (failure : Failure) :
    (progress.skip (.text name) failure).1.AgreesBut (.text name) progress where
  holdings_eq := rfl
  registered_eq := rfl
  packages_eq := rfl
  failures_eq := (Report.filter_putFailure _ _ _ _).trans (if_pos rfl)

namespace AgreesBut

/-- A registration keeps two fillings in agreement. -/
lemma succeed (h : p.AgreesBut key q) (registration : Binding.Registration) :
    (p.succeed registration).AgreesBut key (q.succeed registration) where
  holdings_eq := by rw [Progress.succeed, Progress.succeed, h.holdings_eq]
  registered_eq := by
    change (if p.report.hasRegistered registration.client.id then p.report.registered
        else p.report.registered ++ [registration.client.id])
      = if q.report.hasRegistered registration.client.id then q.report.registered
        else q.report.registered ++ [registration.client.id]
    rw [Report.hasRegistered, Report.hasRegistered, h.registered_eq]
  packages_eq := h.packages_eq
  failures_eq := by
    change List.filter _ (List.filter _ _) = List.filter _ (List.filter _ _)
    rw [List.filter_comm, h.failures_eq, List.filter_comm]

/-- So does passing over a specification. -/
lemma skip (h : p.AgreesBut key q) (id : Datum) (failure : Failure) :
    (p.skip id failure).2 = (q.skip id failure).2
      ∧ (p.skip id failure).1.AgreesBut key (q.skip id failure).1 := by
  rw [Progress.skip, Progress.skip]
  cases ClientId.ofDatum? id with
  | none => exact ⟨rfl, h.holdings_eq, h.registered_eq, h.packages_eq, h.failures_eq⟩
  | some id =>
      refine ⟨rfl, h.holdings_eq, h.registered_eq, h.packages_eq, ?_⟩
      change (Report.putFailure _ _ _).filter _ = (Report.putFailure _ _ _).filter _
      rw [Report.filter_putFailure, Report.filter_putFailure, h.failures_eq]

/-- **One more specification** does the same to both. -/
lemma fillSpec (h : p.AgreesBut key q) (config : CatalogConfig) (launcher : Launcher)
    (spec : ServerSpec) :
    (Catalog.fillSpec config launcher p spec).2 = (Catalog.fillSpec config launcher q spec).2
      ∧ (Catalog.fillSpec config launcher p spec).1.AgreesBut key
          (Catalog.fillSpec config launcher q spec).1 := by
  cases hp : registerSpec config launcher p.holdings.registry spec with
  | ok registration =>
      have hq := hp
      rw [h.holdings_eq] at hq
      rw [fillSpec_of_ok hp, fillSpec_of_ok hq]
      exact ⟨rfl, h.succeed registration⟩
  | error failure =>
      have hq := hp
      rw [h.holdings_eq] at hq
      by_cases hown : failure.isOwn
      · rw [fillSpec_of_own hp hown, fillSpec_of_own hq hown]
        exact h.skip spec.id failure
      · rw [fillSpec_of_foreign hp hown, fillSpec_of_foreign hq hown]
        exact ⟨rfl, h⟩

/-- **A run does the same to both.** -/
theorem fillSpecs (h : p.AgreesBut key q) (config : CatalogConfig) (launcher : Launcher)
    (specs : List ServerSpec) :
    (Catalog.fillSpecs config launcher p specs).2 = (Catalog.fillSpecs config launcher q specs).2
      ∧ (Catalog.fillSpecs config launcher p specs).1.AgreesBut key
          (Catalog.fillSpecs config launcher q specs).1 := by
  induction specs generalizing p q with
  | nil => exact ⟨rfl, h⟩
  | cons spec rest ih =>
      obtain ⟨hending, hagrees⟩ := h.fillSpec config launcher spec
      rw [Catalog.fillSpecs, Catalog.fillSpecs]
      generalize Catalog.fillSpec config launcher p spec = onP at hending hagrees ⊢
      generalize Catalog.fillSpec config launcher q spec = onQ at hending hagrees ⊢
      obtain ⟨p', ending⟩ := onP
      obtain ⟨q', ending'⟩ := onQ
      obtain rfl : ending = ending' := hending
      cases ending with
      | none => exact ih hagrees
      | some failure => exact ⟨rfl, hagrees⟩

end AgreesBut

end Progress

/-! ## What a run leaves as it is -/

/-- What is reported on the way stays. -/
lemma log_isPrefix_fillSpec (config : CatalogConfig) (launcher : Launcher) (progress : Progress)
    (spec : ServerSpec) : progress.log <+: (fillSpec config launcher progress spec).1.log := by
  rw [fillSpec]
  split
  · exact List.prefix_append _ _
  · split
    · rw [Progress.skip]
      split <;> exact List.prefix_append _ _
    · exact List.prefix_rfl

lemma log_isPrefix_fillSpecs (progress : Progress) (specs : List ServerSpec) :
    progress.log <+: (fillSpecs config launcher progress specs).1.log :=
  kept_fillSpecs (motive := fun later => progress.log <+: later.log)
    (fun later spec _ h => h.trans (log_isPrefix_fillSpec config launcher later spec))
    List.prefix_rfl

/-- A specification for another id leaves what is reported of an id as it is. -/
lemma failure?_fillSpec {other : String} (hid : spec.id = .text other) (hne : other ≠ name) :
    (fillSpec config launcher progress spec).1.report.failure? (.text name)
      = progress.report.failure? (.text name) := by
  have hkey : (ClientId.text other).key ≠ (ClientId.text name).key :=
    fun he => hne (ClientId.key_text_inj.1 he)
  cases hspec : registerSpec config launcher progress.holdings.registry spec with
  | ok registration =>
      obtain ⟨-, source, command, mapping, id, -, -, -, hneed, rfl⟩ :=
        exists_of_registerSpec hspec
      rw [hid, Datum.needId_text] at hneed
      obtain rfl := Except.ok.inj hneed
      rw [fillSpec_of_ok hspec]
      exact Report.failure?_succeed hkey
  | error failure =>
      by_cases hown : failure.isOwn
      · rw [fillSpec_of_own hspec hown, hid, Progress.skip_text]
        exact (Report.failure?_fail _ _ _ _).trans (if_neg hkey)
      · rw [fillSpec_of_foreign hspec hown]

lemma failure?_fillSpecs (h : ∀ spec ∈ specs, ∃ other, spec.id = .text other ∧ other ≠ name) :
    (fillSpecs config launcher progress specs).1.report.failure? (.text name)
      = progress.report.failure? (.text name) := by
  refine kept_fillSpecs (motive := fun later =>
    later.report.failure? (.text name) = progress.report.failure? (.text name)) ?_ rfl
  intro later spec hspec hkept
  obtain ⟨other, hid, hne⟩ := h spec hspec
  exact (failure?_fillSpec hid hne).trans hkept

end Catalog

/-! ## Values as they are meant to be given -/

/-- **A specification as it is meant to be given**: both ids are texts, and the command is a text or
a list of texts. -/
structure ServerSpec.IsTyped (spec : ServerSpec) : Prop where
  /-- the id of the client that it is made from is a text -/
  sourceId_text : spec.sourceId.isText
  /-- its own id is a text -/
  id_text : ∃ name, spec.id = .text name
  /-- its command is a text or a list of texts -/
  command_text : (∃ text, spec.command = .text text) ∨ ∃ words, spec.command = .ofTexts words

/-- The command of a specification can be cut into words. -/
def ServerSpec.IsCut (spec : ServerSpec) : Prop := ∃ words, Command.words spec.command = .ok words

/-- **A configuration as it is meant to be given**: it is made of arguments, and its packages are
named by texts. -/
structure CatalogConfig.IsTyped (config : CatalogConfig) : Prop where
  /-- it is made of arguments -/
  made : ∃ arguments, CatalogConfig.ofArguments arguments = .ok config
  /-- its packages are named by texts -/
  packages_text : ∀ package ∈ config.packages, package.isText

/-- The configuration with other specifications. -/
def CatalogConfig.withSpecs (config : CatalogConfig) (specs : List ServerSpec) : CatalogConfig :=
  { config with specs := .ok specs }

/-- The mounts of a configuration that is made of arguments can be read again. -/
lemma CatalogConfig.IsTyped.exists_reread {config : CatalogConfig} (h : config.IsTyped) :
    ∃ reread, Mapping.ofDatum config.mapping.toDatum = .ok reread := by
  obtain ⟨arguments, harguments⟩ := h.made
  obtain ⟨mounts, hmounts⟩ := CatalogConfig.exists_mounts_of_ofArguments harguments
  exact ⟨_, Mapping.ofDatum_toDatum hmounts⟩

/-- **A command that cannot be cut** is a text with an open quotation or nothing behind a
backslash. -/
lemma ServerSpec.IsTyped.isCut_or {spec : ServerSpec} (h : spec.IsTyped) :
    spec.IsCut ∨ ∃ text fault, spec.command = .text text
      ∧ Command.readWords text.toList = .error fault
      ∧ Command.words spec.command = .error (.invalidValue (.words fault)) := by
  rcases h.command_text with ⟨text, htext⟩ | ⟨words, hwords⟩
  · cases hread : Command.readWords text.toList with
    | ok words =>
        refine .inl ⟨words.map String.ofList, ?_⟩
        rw [htext, Command.words, Command.ofText, hread]
    | error fault =>
        refine .inr ⟨text, fault, htext, hread, ?_⟩
        rw [htext, Command.words, Command.ofText, hread]
  · refine .inl ⟨Command.tidy words, ?_⟩
    rw [hwords]
    exact Command.words_ofTexts words

namespace Catalog

variable {around : Surroundings} {options : LoadOptions} {launcher : Launcher}
  {config : CatalogConfig} {holdings : Holdings} {registry : Registry} {spec : ServerSpec}
  {progress : Progress} {specs : List ServerSpec}

/-- **What a specification can come to** when everything is as it is meant to be: it succeeds, it
fails with a failure of the library's own, or its command cannot be cut into words. -/
lemma registerSpec_of_isTyped (hconfig : config.IsTyped) (hregistry : registry.HasTextIds)
    (hspec : spec.IsTyped) (launcher : Launcher) :
    (∃ registration, registerSpec config launcher registry spec = .ok registration
        ∧ registration.registry.HasTextIds)
      ∨ (∃ failure, registerSpec config launcher registry spec = .error failure
        ∧ failure.isOwn)
      ∨ ∃ text fault, spec.command = .text text
        ∧ Command.readWords text.toList = .error fault
        ∧ registerSpec config launcher registry spec = .error (.invalidValue (.words fault)) := by
  rw [registerSpec_eq]
  split_ifs with hsame himage
  · exact .inr (.inl ⟨_, rfl, rfl⟩)
  · exact .inr (.inl ⟨_, rfl, rfl⟩)
  · rcases hregistry.requireNamed hspec.sourceId_text with ⟨source, hsource⟩ | ⟨ids, hunknown⟩
    · rw [hsource]
      rcases hspec.isCut_or with ⟨command, hcommand⟩ | ⟨text, fault, htext, hread, hfault⟩
      · obtain ⟨mapping, hmapping⟩ := hconfig.exists_reread
        obtain ⟨name, hname⟩ := hspec.id_text
        rw [hcommand, hmapping, hname]
        exact .inl ⟨_, rfl, hregistry.register ⟨name, rfl⟩⟩
      · rw [hfault]
        exact .inr (.inr ⟨text, fault, htext, hread, rfl⟩)
    · rw [hunknown]
      exact .inr (.inl ⟨_, rfl, rfl⟩)

/-- Such a specification leaves a registry whose ids are texts. -/
lemma hasTextIds_fillSpec (hconfig : config.IsTyped)
    (hregistry : progress.holdings.registry.HasTextIds) (hspec : spec.IsTyped)
    (launcher : Launcher) :
    (fillSpec config launcher progress spec).1.holdings.registry.HasTextIds := by
  rcases registerSpec_of_isTyped hconfig hregistry hspec launcher with
    ⟨registration, hok, hkept⟩ | ⟨failure, herror, -⟩ | ⟨text, fault, -, -, herror⟩
  · rw [fillSpec_of_ok hok]
    exact hkept
  · rw [(fillSpec_of_error herror).1]
    exact hregistry
  · rw [(fillSpec_of_error herror).1]
    exact hregistry

/-- **So does a run.** -/
lemma hasTextIds_fillSpecs (hconfig : config.IsTyped)
    (hregistry : progress.holdings.registry.HasTextIds) (hspecs : ∀ spec ∈ specs, spec.IsTyped)
    (launcher : Launcher) :
    (fillSpecs config launcher progress specs).1.holdings.registry.HasTextIds :=
  kept_fillSpecs (motive := fun later => later.holdings.registry.HasTextIds)
    (fun _ spec hs h => hasTextIds_fillSpec hconfig h (hspecs spec hs) launcher) hregistry

/-- A specification whose command can be cut does not end the filling. -/
lemma fillSpec_of_isCut (hconfig : config.IsTyped)
    (hregistry : progress.holdings.registry.HasTextIds) (hspec : spec.IsTyped) (hcut : spec.IsCut)
    (launcher : Launcher) : (fillSpec config launcher progress spec).2 = none := by
  rcases registerSpec_of_isTyped hconfig hregistry hspec launcher with
    ⟨registration, hok, -⟩ | ⟨failure, herror, hown⟩ | ⟨text, fault, htext, hread, -⟩
  · rw [fillSpec_of_ok hok]
  · obtain ⟨name, hname⟩ := hspec.id_text
    rw [fillSpec_of_own herror hown, hname, Progress.skip_text]
  · obtain ⟨words, hwords⟩ := hcut
    rw [htext, Command.words, Command.ofText, hread] at hwords
    contradiction

/-- **A run of such specifications comes to its end.** -/
lemma fillSpecs_of_isCut (hconfig : config.IsTyped)
    (hregistry : progress.holdings.registry.HasTextIds) (hspecs : ∀ spec ∈ specs, spec.IsTyped)
    (hcut : ∀ spec ∈ specs, spec.IsCut) (launcher : Launcher) :
    (fillSpecs config launcher progress specs).2 = none := by
  induction specs generalizing progress with
  | nil => rfl
  | cons spec rest ih =>
      have hspec := hspecs spec List.mem_cons_self
      have hnone := fillSpec_of_isCut hconfig hregistry hspec
        (hcut spec List.mem_cons_self) launcher
      rw [fillSpecs_cons_of_none (Prod.ext rfl hnone)]
      exact ih (hasTextIds_fillSpec hconfig hregistry hspec launcher)
        (fun later hl => hspecs later (List.mem_cons_of_mem _ hl))
        fun later hl => hcut later (List.mem_cons_of_mem _ hl)

/-! ## Filling -/

/-- Texts are names. -/
lemma exists_leadingNames {packages : List Datum} (h : ∀ package ∈ packages, package.isText) :
    ∃ names, leadingNames packages = (names, true) := by
  induction packages with
  | nil => exact ⟨[], rfl⟩
  | cons package rest ih =>
      obtain ⟨s, rfl⟩ := Datum.exists_text (h package List.mem_cons_self)
      obtain ⟨names, hnames⟩ := ih fun next hn => h next (List.mem_cons_of_mem _ hn)
      refine ⟨s :: names, ?_⟩
      rw [leadingNames, hnames]

/-- Filling looks at the specifications of a configuration only to go through them. -/
lemma fillSpecs_withSpecs (config : CatalogConfig) (given : List ServerSpec) (launcher : Launcher)
    (progress : Progress) (specs : List ServerSpec) :
    fillSpecs (config.withSpecs given) launcher progress specs
      = fillSpecs config launcher progress specs := by
  induction specs generalizing progress with
  | nil => rfl
  | cons spec rest ih =>
      rw [fillSpecs, fillSpecs]
      simp only [ih]
      rfl

/-- Filling ends where loading the packages does. -/
lemma fill_of_error {failure : Failure}
    (h : (loadNamed around options holdings config.packages).outcome = .error failure) :
    fill around options launcher config holdings
      = (⟨(loadNamed around options holdings config.packages).holdings, {},
          (loadNamed around options holdings config.packages).log⟩, some failure) := by
  rw [fill]
  simp only [h]

/-- **Filling is loading, and then a run.** -/
lemma fill_withSpecs_of_ok {packages : Outcomes}
    (h : (loadNamed around options holdings config.packages).outcome = .ok packages)
    (specs : List ServerSpec) :
    fill around options launcher (config.withSpecs specs) holdings
      = fillSpecs config launcher
          ⟨(loadNamed around options holdings config.packages).holdings, { packages },
            (loadNamed around options holdings config.packages).log⟩ specs := by
  rw [← fillSpecs_withSpecs config specs, fill]
  have hsame : (config.withSpecs specs).packages = config.packages := rfl
  simp only [hsame, h]
  rfl

/-- **Loading comes to its end** when everything that is installed is as it is meant to be, so that
filling is a run. -/
lemma exists_start_of_isTyped (hinstalled : around.installed.HasTextIds)
    (hregistry : holdings.registry.HasTextIds) (hconfig : config.IsTyped) (options : LoadOptions)
    (launcher : Launcher) :
    ∃ start : Progress, start.holdings.registry.HasTextIds
      ∧ ∀ specs, fill around options launcher (config.withSpecs specs) holdings
          = fillSpecs config launcher start specs := by
  obtain ⟨names, hnames⟩ := exists_leadingNames hconfig.packages_text
  have hloaded := keeps_loadPackages hinstalled hregistry options names
  have hnamed : loadNamed around options holdings config.packages
      = loadPackages around options holdings names := by
    rw [loadNamed, hnames]
  rw [← hnamed] at hloaded
  obtain ⟨packages, hpackages⟩ := hloaded.exists_outcome
  refine ⟨⟨(loadNamed around options holdings config.packages).holdings, { packages },
    (loadNamed around options holdings config.packages).log⟩, hloaded.hasTextIds, ?_⟩
  exact fun specs => fill_withSpecs_of_ok hpackages specs

/-- A failure at the turn of a specification is one of the library's own, or its command cannot be
cut. -/
lemma isOwn_or_of_isTyped {failure : Failure} (hconfig : config.IsTyped)
    (hregistry : registry.HasTextIds) (hspec : spec.IsTyped)
    (hfails : registerSpec config launcher registry spec = .error failure) :
    failure.isOwn ∨ ∃ text fault, spec.command = .text text
      ∧ Command.readWords text.toList = .error fault
      ∧ failure = .invalidValue (.words fault) := by
  rcases registerSpec_of_isTyped hconfig hregistry hspec launcher with
    ⟨registration, hok, -⟩ | ⟨own, herror, hown⟩ | ⟨text, fault, htext, hread, herror⟩
  · rw [hfails] at hok
    contradiction
  · rw [hfails] at herror
    obtain rfl := Except.error.inj herror
    exact .inl hown
  · rw [hfails] at herror
    exact .inr ⟨text, fault, htext, hread, Except.error.inj herror⟩

/-- **A specification that is passed over drops only its own client**: the run behind it is that
without it, and its failure is reported. -/
lemma fillSpecs_cons_of_own {turn : Progress} {failure : Failure} {name : String}
    (hfails : registerSpec config launcher turn.holdings.registry spec = .error failure)
    (hown : failure.isOwn) (hname : spec.id = .text name) {after : List ServerSpec}
    (hafter : ∀ later ∈ after, later.IsTyped) :
    let filled := fillSpecs config launcher turn (spec :: after)
    let without := fillSpecs config launcher turn after
    filled.2 = without.2
      ∧ filled.1.AgreesBut (.text name) without.1
      ∧ .skipping name failure ∈ filled.1.log
      ∧ ((∀ later ∈ after, later.id ≠ .text name) →
        filled.1.report.failure? (.text name) = some failure) := by
  intro filled without
  have hstep : fillSpec config launcher turn spec = turn.skip (.text name) failure := by
    rw [fillSpec_of_own hfails hown, hname]
  have hfilled : filled = fillSpecs config launcher (turn.skip (.text name) failure).1 after :=
    fillSpecs_cons_of_none (hstep.trans (turn.skip_text name failure)) after
  obtain ⟨hending, hagrees⟩ := (turn.agreesBut_skip name failure).fillSpecs config launcher after
  rw [← hfilled] at hending hagrees
  refine ⟨hending, hagrees, ?_, fun hlater => ?_⟩
  · rw [hfilled]
    exact (log_isPrefix_fillSpecs _ after).subset (List.mem_append_right _ List.mem_cons_self)
  · have hothers : ∀ later ∈ after, ∃ other, later.id = .text other ∧ other ≠ name := by
      intro later hl
      obtain ⟨other, hother⟩ := (hafter later hl).id_text
      exact ⟨other, hother, fun he => hlater later hl (by rw [hother, he])⟩
    rw [hfilled, failure?_fillSpecs hothers]
    exact (Report.failure?_fail _ _ _ _).trans (if_pos rfl)

/-- **What becomes of the others when a specification fails at its turn.**  Let the ids of the
registry and of all that is installed be texts, and the configuration and its specifications be as
they are meant to be given.

* The failure is one of the library's own, or the command cannot be cut into words.
* If it is one of the library's own, filling ends as it does without the specification, and all that
  is registered is the same.  The failure is reported on the way, and in the end it stands under the
  id of the specification, unless a later one is for the same id.
* If it is not, filling ends there with this failure, and the others are not looked at.
* If all commands can be cut into words, filling comes to its end. -/
theorem fill_failing_spec (hinstalled : around.installed.HasTextIds)
    (hregistry : holdings.registry.HasTextIds) (hconfig : config.IsTyped)
    {before after : List ServerSpec} (hspecs : ∀ each ∈ before ++ spec :: after, each.IsTyped)
    {name : String} (hname : spec.id = .text name) {turn : Progress}
    (hturn : fill around options launcher (config.withSpecs before) holdings = (turn, none))
    {failure : Failure}
    (hfails : registerSpec config launcher turn.holdings.registry spec = .error failure) :
    let filled := fill around options launcher (config.withSpecs (before ++ spec :: after)) holdings
    let without := fill around options launcher (config.withSpecs (before ++ after)) holdings
    (failure.isOwn ∨ ∃ text fault, spec.command = .text text
        ∧ Command.readWords text.toList = .error fault
        ∧ failure = .invalidValue (.words fault))
      ∧ (failure.isOwn →
        filled.2 = without.2
        ∧ filled.1.AgreesBut (.text name) without.1
        ∧ .skipping name failure ∈ filled.1.log
        ∧ ((∀ later ∈ after, later.id ≠ .text name) →
          filled.1.report.failure? (.text name) = some failure))
      ∧ (¬ failure.isOwn → filled = (turn, some failure))
      ∧ ((∀ each ∈ before ++ spec :: after, each.IsCut) → filled.2 = none) := by
  intro filled without
  obtain ⟨start, hstart, hfill⟩ :=
    exists_start_of_isTyped hinstalled hregistry hconfig options launcher
  rw [hfill] at hturn
  have hbefore : ∀ each ∈ before, each.IsTyped :=
    fun each he => hspecs each (List.mem_append_left _ he)
  have hspec : spec.IsTyped := hspecs spec (List.mem_append_right _ List.mem_cons_self)
  have hafter : ∀ each ∈ after, each.IsTyped :=
    fun each he => hspecs each (List.mem_append_right _ (List.mem_cons_of_mem _ he))
  have hkept : turn.holdings.registry.HasTextIds := by
    have hrun := hasTextIds_fillSpecs hconfig hstart hbefore launcher
    rwa [hturn] at hrun
  -- both fillings come to the turn of the specification, and go on from there
  have hfilled : filled = fillSpecs config launcher turn (spec :: after) :=
    (hfill _).trans (fillSpecs_append_of_none hturn _)
  have hwithout : without = fillSpecs config launcher turn after :=
    (hfill _).trans (fillSpecs_append_of_none hturn _)
  refine ⟨isOwn_or_of_isTyped hconfig hkept hspec hfails, ?_, ?_, ?_⟩
  · intro hown
    rw [hfilled, hwithout]
    exact fillSpecs_cons_of_own hfails hown hname hafter
  · intro hforeign
    rw [hfilled, fillSpecs, fillSpec_of_foreign hfails hforeign]
  · intro hcut
    rw [show filled = _ from hfill _]
    exact fillSpecs_of_isCut hconfig hstart hspecs hcut launcher

/-- The bundled packages give only clients whose ids are texts. -/
lemma hasTextIds_bundledPackages :
    Installed.HasTextIds ⟨bundledPackages, [], .ok []⟩ where
  exports := by
    intro package hpackage member hmember
    obtain ⟨⟨name, clients⟩, hentry, rfl⟩ := List.mem_map.1 hpackage
    obtain rfl : _ = member := Option.some.inj hmember
    intro item hitem
    obtain ⟨client, hclient, rfl⟩ := List.mem_map.1 hitem
    have hids : ∀ entry ∈ bundledClients, ∀ client ∈ entry.2, client.id.IsText := by
      simp [bundledClients, bundledClient, Client.onHost, ClientId.IsText]
    exact .inr ⟨client, rfl, hids _ hentry client hclient⟩
  entryPoints := fun entryPoint hmem => absurd hmem List.not_mem_nil

/-- A specification that succeeds once there is a client for Go. -/
def goSpec : ServerSpec := .plain "gopls" "first" "gopls"

/-- A specification with an image of its own, but no container name. -/
def unnamedImageSpec : ServerSpec :=
  { ServerSpec.plain "gopls" "unnamed" "gopls" with image := .text "own" }

/-- A specification that is made from the first one. -/
def secondSpec : ServerSpec := .plain "first" "second" "gopls serve"

/-- A specification with an open quotation in its command. -/
def openQuotationSpec : ServerSpec := .plain "gopls" "quoted" "gopls '"

/-- The small configuration is made of arguments. -/
lemma isTyped_goOnly (specs : List ServerSpec) : (goOnly specs).IsTyped where
  made := ⟨⟨[("path_mappings", .ofTexts ["/h:/c"]), ("docker_image_id", .text "img"),
    ("docker_container_name", .text "box"), ("client_packages", .ofTexts ["go"])],
    some (.specs specs)⟩, rfl⟩
  packages_text := fun package hp => by rw [List.mem_singleton.1 hp]; rfl

/-- An image without a container name drops its own client only. -/
theorem fill_failing_spec_unnamedImage :
    bundledOnly.installed.HasTextIds ∧ Holdings.initial.registry.HasTextIds ∧ (goOnly []).IsTyped
      ∧ (∀ each ∈ [goSpec, unnamedImageSpec, secondSpec], each.IsTyped)
      ∧ (filledWith [goSpec]).2 = none
      ∧ (filledWith [goSpec, unnamedImageSpec, secondSpec]).2 = none
      ∧ (filledWith [goSpec, unnamedImageSpec, secondSpec]).1.report.failure? (.text "unnamed")
        = some (.invalidServerSpec (.text "unnamed") (.imageWithoutName (.text "own")))
      ∧ (filledWith [goSpec, unnamedImageSpec, secondSpec]).1.holdings
        = (filledWith [goSpec, secondSpec]).1.holdings := by
  have hspecs : ∀ each ∈ [goSpec, unnamedImageSpec, secondSpec], each.IsTyped ∧ each.IsCut := by
    intro each heach
    simp only [List.mem_cons, List.not_mem_nil, or_false] at heach
    rcases heach with rfl | rfl | rfl <;>
      exact ⟨⟨rfl, ⟨_, rfl⟩, .inl ⟨_, rfl⟩⟩, ⟨_, rfl⟩⟩
  have hturn : (filledWith [goSpec]).2 = none := rfl
  have hfails : registerSpec (goOnly []) .standard (filledWith [goSpec]).1.holdings.registry
        unnamedImageSpec
      = .error (.invalidServerSpec (.text "unnamed") (.imageWithoutName (.text "own"))) := rfl
  obtain ⟨-, hown, -, hends⟩ := fill_failing_spec hasTextIds_bundledPackages
    Registry.hasTextIds_empty (isTyped_goOnly []) (fun each he => (hspecs each he).1) rfl
    (Prod.ext rfl hturn) hfails
  obtain ⟨-, hagrees, -, hreported⟩ := hown rfl
  refine ⟨hasTextIds_bundledPackages, Registry.hasTextIds_empty, isTyped_goOnly [],
    fun each he => (hspecs each he).1, hturn, hends fun each he => (hspecs each he).2,
    hreported fun later hl => ?_, hagrees.holdings_eq⟩
  obtain rfl := List.mem_singleton.1 hl
  simp [secondSpec, ServerSpec.plain]

/-- **An open quotation drops the specifications behind it too.**  All hypotheses of the law are
met, but the filling ends with a failure, and the specification behind is not registered, as it is
without the open quotation. -/
theorem fill_failing_spec_fails :
    bundledOnly.installed.HasTextIds ∧ Holdings.initial.registry.HasTextIds ∧ (goOnly []).IsTyped
      ∧ openQuotationSpec.IsTyped ∧ goSpec.IsTyped
      ∧ (filledWith [openQuotationSpec, goSpec]).2 = some (.invalidValue (.words .openQuotation))
      ∧ (filledWith [openQuotationSpec, goSpec]).1.report.failure? (.text "quoted") = none
      ∧ (filledWith [openQuotationSpec, goSpec]).1.holdings.registry.contains (.text "first")
        = false
      ∧ (filledWith [goSpec]).2 = none
      ∧ (filledWith [goSpec]).1.holdings.registry.contains (.text "first") = true :=
  ⟨hasTextIds_bundledPackages, Registry.hasTextIds_empty, isTyped_goOnly [],
    ⟨rfl, ⟨_, rfl⟩, .inl ⟨_, rfl⟩⟩, ⟨rfl, ⟨_, rfl⟩, .inl ⟨_, rfl⟩⟩, rfl, rfl, rfl, rfl, rfl⟩

end Catalog

end ContainerClients
