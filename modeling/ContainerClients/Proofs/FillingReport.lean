import Mathlib.Data.List.Nodup
import ContainerClients.Proofs.FailingSpec

/-!
# What the report of a filling says

Specifications may be for one id more than once, and one may be made from the client of another.
Whether one succeeds depends on what those before it have registered, so a filling is looked at turn
by turn.  The report treats successes and failures differently: a success takes back the failure of
its id, and a failure leaves its id among those that were registered.  So the ids that are reported
as registered go by the first success, the failures go by the last turn, and the registry goes by
the last success.

* `Turn` — a specification at its turn: what it finds, and what comes of it.
* `Catalog.turns` — the turns of a run.
* `Report.Tells` — what a report says of the turns so far; `Report.Tells.succeed` and
  `Report.Tells.fail` — one more turn.
* `Catalog.exists_of_fillSpec` — all that one specification can do, unless it ends the filling.
* `Catalog.Progress.Follows` — the report and the registry say what the turns do;
  `Progress.Follows.fillSpec` for one specification, `Progress.Follows.fillSpecs` for a run.
* **`Catalog.report_of_fill`** — the report and the registry of a filling that comes to its end.
-/

namespace ContainerClients

open ContainerClients.Container

/-! ## Failures in a report -/

namespace Report

/-- **A success takes back the failure of its own id**, and no other. -/
lemma failure?_succeed_eq (report : Report) (id d : ClientId) :
    (report.succeed id).failure? d = if id.key = d.key then none else report.failure? d := by
  split_ifs with h
  · rw [failure?, Option.map_eq_none_iff, List.find?_eq_none]
    intro entry hentry
    have hkept : (entry.1.key != id.key) = true := (List.mem_filter.1 hentry).2
    rw [← h]
    simpa using hkept
  · exact failure?_succeed h

/-- The ids under which failures stand, when one more is put among them. -/
lemma keys_putFailure (id : ClientId) (failure : Failure) (entries : List (ClientId × Failure)) :
    (putFailure id failure entries).map (·.1.key)
      = if id.key ∈ entries.map (·.1.key) then entries.map (·.1.key)
        else entries.map (·.1.key) ++ [id.key] := by
  induction entries with
  | nil => rfl
  | cons entry rest ih =>
      rw [putFailure]
      by_cases he : entry.1.key = id.key
      · rw [if_pos he, if_pos (List.mem_map.2 ⟨entry, List.mem_cons_self, he⟩)]
        rfl
      · have hne : ¬ id.key = entry.1.key := fun h => he h.symm
        rw [if_neg he, List.map_cons, List.map_cons, ih]
        by_cases hmem : id.key ∈ rest.map (·.1.key)
        · rw [if_pos hmem, if_pos (List.mem_cons_of_mem _ hmem)]
        · rw [if_neg hmem, if_neg (List.not_mem_cons_of_ne_of_not_mem hne hmem)]
          rfl

/-- **No failure is reported exactly when all is well.** -/
lemma isOk_iff {report : Report} : report.isOk ↔ ∀ id, report.failure? id = none := by
  rw [isOk, List.isEmpty_iff]
  constructor
  · intro h id
    rw [failure?, h]
    rfl
  · intro h
    cases hentries : report.failures with
    | nil => rfl
    | cons entry rest =>
        have hfirst := h entry.1
        simp [failure?, hentries] at hfirst

end Report

/-! ## Turns -/

/-- **A specification at its turn.** -/
structure Turn where
  /-- the specification -/
  spec : ServerSpec
  /-- what it finds registered -/
  registry : Registry
  /-- its client, or why there is none -/
  outcome : Except Failure Client

namespace Turn

/-- The client, if there is one. -/
def client? (turn : Turn) : Option Client := turn.outcome.toOption

/-- The failure, if it fails. -/
def failure? (turn : Turn) : Option Failure :=
  match turn.outcome with
  | .ok _ => none
  | .error failure => some failure

/-- **The specification is for an id.** -/
def isFor (turn : Turn) (id : ClientId) : Bool :=
  (ClientId.ofDatum? turn.spec.id).any (·.key == id.key)

/-- **A client is registered for an id** at this turn. -/
def succeedsFor (turn : Turn) (id : ClientId) : Bool := turn.client?.isSome && turn.isFor id

/-- What is registered behind this turn. -/
def left (turn : Turn) : Registry :=
  match turn.outcome with
  | .ok client => turn.registry.register client
  | .error _ => turn.registry

/-- **The last turn** of some kind. -/
def last? (kind : Turn → Bool) (turns : List Turn) : Option Turn := turns.reverse.find? kind

/-- The turn of the first success for an id; all turns when there is none. -/
def firstSuccess (turns : List Turn) (id : ClientId) : Nat := turns.findIdx (·.succeedsFor id)

variable {turn : Turn} {turns : List Turn} {id d : ClientId}

lemma isFor_eq (h : ClientId.ofDatum? turn.spec.id = some id) (d : ClientId) :
    turn.isFor d = (id.key == d.key) := by
  rw [isFor, h, Option.any_some]

lemma succeedsFor_of_ok {client : Client} (hid : ClientId.ofDatum? turn.spec.id = some id)
    (h : turn.outcome = .ok client) (d : ClientId) : turn.succeedsFor d = (id.key == d.key) := by
  rw [succeedsFor, client?, h, isFor_eq hid]
  rfl

lemma succeedsFor_of_error {failure : Failure} (h : turn.outcome = .error failure)
    (d : ClientId) : turn.succeedsFor d = false := by
  rw [succeedsFor, client?, h]
  rfl

lemma client?_eq_some_iff {client : Client} :
    turn.client? = some client ↔ turn.outcome = .ok client := by
  rw [client?]
  cases turn.outcome <;> simp [Except.toOption]

/-- A turn fails unless there is a client. -/
lemma failure?_eq_none_iff : turn.failure? = none ↔ turn.client?.isSome := by
  rw [failure?, client?]
  cases turn.outcome <;> simp [Except.toOption]

/-- There is a last turn of some kind when there is any. -/
lemma exists_last? {kind : Turn → Bool} (h : ∃ turn ∈ turns, kind turn) :
    ∃ turn ∈ turns, last? kind turns = some turn ∧ kind turn := by
  obtain ⟨found, hfound⟩ : ∃ found, last? kind turns = some found := by
    rw [← Option.isSome_iff_exists, last?, List.find?_isSome]
    simpa using h
  exact ⟨found, List.mem_reverse.1 (List.mem_of_find?_eq_some hfound), hfound,
    List.find?_some hfound⟩

/-- The last turn of some kind, with one more turn. -/
lemma last?_concat (kind : Turn → Bool) (turns : List Turn) (turn : Turn) :
    last? kind (turns ++ [turn]) = if kind turn then some turn else last? kind turns := by
  rw [last?, List.reverse_concat, List.find?_cons]
  cases kind turn <;> rfl

/-- The first success stays where it is. -/
lemma firstSuccess_concat (h : ∃ earlier ∈ turns, earlier.succeedsFor d) (turn : Turn) :
    firstSuccess (turns ++ [turn]) d = firstSuccess turns d := by
  rw [firstSuccess, List.findIdx_append, if_pos (List.findIdx_lt_length_of_exists h)]
  rfl

/-- The first success for an id that had none. -/
lemma firstSuccess_concat_new (h : ¬ ∃ earlier ∈ turns, earlier.succeedsFor d)
    (hturn : turn.succeedsFor d) : firstSuccess (turns ++ [turn]) d = turns.length := by
  have hnone : ¬ turns.findIdx (·.succeedsFor d) < turns.length :=
    fun hlt => h (List.findIdx_lt_length.1 hlt)
  rw [firstSuccess, List.findIdx_append, if_neg hnone, List.findIdx_cons, hturn]
  exact Nat.zero_add _

end Turn

/-! ## What a report says of the turns -/

/-- **What a report says of the turns.** -/
structure Report.Tells (report : Report) (turns : List Turn) : Prop where
  /-- the ids that are reported as registered are those with a success -/
  hasRegistered_iff : ∀ id, report.hasRegistered id ↔ ∃ turn ∈ turns, turn.succeedsFor id
  /-- they stand in the order of their first successes, each once -/
  rising : (report.registered.map (Turn.firstSuccess turns)).Pairwise (· < ·)
  /-- the failure that is reported for an id is that of the last turn for it, if it failed -/
  failure?_eq : ∀ id, report.failure? id = (Turn.last? (·.isFor id) turns).bind Turn.failure?
  /-- no id is reported with two failures -/
  nodup_failures : (report.failures.map (·.1.key)).Nodup

namespace Report.Tells

variable {report : Report} {turns : List Turn} {turn : Turn} {id : ClientId}

/-- What is reported as registered keeps its order when there is one more turn. -/
lemma map_firstSuccess (h : report.Tells turns) (turn : Turn) :
    report.registered.map (Turn.firstSuccess (turns ++ [turn]))
      = report.registered.map (Turn.firstSuccess turns) := by
  refine List.map_congr_left fun d hd => Turn.firstSuccess_concat ?_ turn
  exact (h.hasRegistered_iff d).1 (List.any_eq_true.2 ⟨d, hd, beq_self_eq_true _⟩)

/-- **One more turn, and it succeeds.** -/
lemma succeed (h : report.Tells turns) (hid : ClientId.ofDatum? turn.spec.id = some id)
    {client : Client} (hturn : turn.outcome = .ok client) :
    (report.succeed id).Tells (turns ++ [turn]) where
  hasRegistered_iff d := by
    rw [hasRegistered_succeed, h.hasRegistered_iff, or_comm]
    simp only [List.mem_append, List.mem_singleton, or_and_right, exists_or, exists_eq_left,
      Turn.succeedsFor_of_ok hid hturn, beq_iff_eq]
  rising := by
    by_cases hknown : report.hasRegistered id
    · have hsame : (report.succeed id).registered = report.registered := if_pos hknown
      rw [hsame, h.map_firstSuccess]
      exact h.rising
    · have hmore : (report.succeed id).registered = report.registered ++ [id] := if_neg hknown
      have hlast : Turn.firstSuccess (turns ++ [turn]) id = turns.length :=
        Turn.firstSuccess_concat_new (fun hsome => hknown ((h.hasRegistered_iff id).2 hsome))
          ((Turn.succeedsFor_of_ok hid hturn id).trans (beq_self_eq_true _))
      rw [hmore, List.map_append, h.map_firstSuccess, List.pairwise_append]
      refine ⟨h.rising, List.pairwise_singleton _ _, ?_⟩
      -- every id that is there already had its first success at one of the earlier turns
      intro earlier hearlier latest hlatest
      obtain ⟨d, hd, rfl⟩ := List.mem_map.1 hearlier
      rw [List.map_singleton, List.mem_singleton, hlast] at hlatest
      rw [hlatest]
      refine List.findIdx_lt_length_of_exists ((h.hasRegistered_iff d).1 ?_)
      exact List.any_eq_true.2 ⟨d, hd, beq_self_eq_true _⟩
  failure?_eq d := by
    rw [failure?_succeed_eq, Turn.last?_concat, Turn.isFor_eq hid, h.failure?_eq]
    by_cases hkey : id.key = d.key
    · simp [hkey, Turn.failure?, hturn]
    · simp [hkey]
  nodup_failures :=
    h.nodup_failures.sublist ((List.filter_sublist).map _)

/-- **One more turn, and it fails.** -/
lemma fail (h : report.Tells turns) (hid : ClientId.ofDatum? turn.spec.id = some id)
    {failure : Failure} (hturn : turn.outcome = .error failure) :
    (report.fail id failure).Tells (turns ++ [turn]) where
  hasRegistered_iff d := by
    have hsame : (report.fail id failure).hasRegistered d ↔ report.hasRegistered d := Iff.rfl
    rw [hsame, h.hasRegistered_iff]
    simp only [List.mem_append, List.mem_singleton, or_and_right, exists_or, exists_eq_left,
      Turn.succeedsFor_of_error hturn, Bool.false_eq_true, or_false]
  rising := by
    have hsame : (report.fail id failure).registered = report.registered := rfl
    rw [hsame, h.map_firstSuccess]
    exact h.rising
  failure?_eq d := by
    rw [failure?_fail, Turn.last?_concat, Turn.isFor_eq hid, h.failure?_eq]
    by_cases hkey : id.key = d.key
    · simp [hkey, Turn.failure?, hturn]
    · simp [hkey]
  nodup_failures := by
    change ((putFailure id failure report.failures).map (·.1.key)).Nodup
    rw [keys_putFailure]
    split_ifs with hmem
    · exact h.nodup_failures
    · exact List.Nodup.append h.nodup_failures (List.nodup_singleton _) (by simpa using hmem)

end Report.Tells

namespace Catalog

variable {config : CatalogConfig} {launcher : Launcher} {registry start : Registry}
  {spec : ServerSpec} {specs : List ServerSpec} {progress next last : Progress}
  {past : List Turn}

/-! ## The turns of a run -/

/-- A specification at its turn. -/
def turn (config : CatalogConfig) (launcher : Launcher) (registry : Registry) (spec : ServerSpec) :
    Turn where
  spec
  registry
  outcome := (registerSpec config launcher registry spec).map (·.client)

/-- **The turns of a run**, in order: each one finds what those before it have left. -/
def turns (config : CatalogConfig) (launcher : Launcher) :
    Registry → List ServerSpec → List Turn
  | _, [] => []
  | registry, spec :: rest =>
    let first := turn config launcher registry spec
    first :: turns config launcher first.left rest

/-- **All that one specification can do**, unless it ends the filling: its client is registered and
reported, or its failure is. -/
lemma exists_of_fillSpec (h : fillSpec config launcher progress spec = (next, none)) :
    ∃ id, ClientId.ofDatum? spec.id = some id
      ∧ next.holdings.registry = (turn config launcher progress.holdings.registry spec).left
      ∧ ((∃ client, (turn config launcher progress.holdings.registry spec).outcome = .ok client
            ∧ client.id = id ∧ next.report = progress.report.succeed id)
        ∨ ∃ failure, (turn config launcher progress.holdings.registry spec).outcome = .error failure
            ∧ next.report = progress.report.fail id failure) := by
  cases hspec : registerSpec config launcher progress.holdings.registry spec with
  | ok registration =>
      have hregistry := registry_of_registerSpec hspec
      obtain ⟨-, source, command, mapping, id, -, -, -, hneed, rfl⟩ := exists_of_registerSpec hspec
      rw [fillSpec_of_ok hspec, Prod.mk.injEq] at h
      obtain ⟨rfl, -⟩ := h
      refine ⟨id, Datum.needId_eq_ok_iff.1 hneed, ?_,
        .inl ⟨_, by rw [turn, hspec]; rfl, rfl, rfl⟩⟩
      rw [Turn.left, turn, hspec]
      exact hregistry
  | error failure =>
      have houtcome : (turn config launcher progress.holdings.registry spec).outcome
          = .error failure := by rw [turn, hspec]; rfl
      have hown : failure.isOwn := by
        by_contra hforeign
        rw [fillSpec_of_foreign hspec hforeign] at h
        exact Option.some_ne_none _ (congrArg Prod.snd h)
      rw [fillSpec_of_own hspec hown, Progress.skip] at h
      split at h
      · rename_i id hid
        obtain ⟨rfl, -⟩ := Prod.mk.inj h
        refine ⟨id, hid, ?_, .inr ⟨failure, houtcome, rfl⟩⟩
        rw [Turn.left, houtcome]
        rfl
      · exact absurd (congrArg Prod.snd h) (Option.some_ne_none _)

/-! ## One turn after the other -/

/-- **The report and the registry follow the turns** since some start. -/
structure Progress.Follows (progress : Progress) (start : Registry) (turns : List Turn) : Prop where
  /-- the report says what the turns did -/
  tells : progress.report.Tells turns
  /-- the client under an id is that of the last success for it, or the one from the start -/
  get?_eq : ∀ id, progress.holdings.registry.get? id
    = ((Turn.last? (·.succeedsFor id) turns).bind Turn.client?).or (start.get? id)

namespace Progress.Follows

/-- Before the first turn nothing is reported. -/
lemma initial (holdings : Holdings) (packages : Outcomes) (log : Log) :
    Progress.Follows ⟨holdings, { packages }, log⟩ holdings.registry [] where
  tells := ⟨fun id => by simp [Report.hasRegistered], .nil, fun id => rfl, .nil⟩
  get?_eq := fun id => rfl

/-- **One more specification.** -/
lemma fillSpec (h : progress.Follows start past)
    (hstep : Catalog.fillSpec config launcher progress spec = (next, none)) :
    next.Follows start (past ++ [turn config launcher progress.holdings.registry spec]) := by
  obtain ⟨id, hid, hleft, ⟨client, hturn, rfl, hreport⟩ | ⟨failure, hturn, hreport⟩⟩ :=
    exists_of_fillSpec hstep
  · refine ⟨hreport ▸ h.tells.succeed hid hturn, fun d => ?_⟩
    rw [hleft, Turn.left, hturn, Turn.last?_concat, Turn.succeedsFor_of_ok hid hturn]
    change (progress.holdings.registry.register client).get? d = _
    rw [Registry.get?_register, h.get?_eq]
    by_cases hkey : d.key = client.id.key
    · simp [hkey, Turn.client?, hturn, Except.toOption]
    · have hne : ¬ client.id.key = d.key := fun he => hkey he.symm
      simp [hkey, hne]
  · refine ⟨hreport ▸ h.tells.fail hid hturn, fun d => ?_⟩
    rw [hleft, Turn.left, hturn, Turn.last?_concat, Turn.succeedsFor_of_error hturn]
    exact h.get?_eq d

/-- **A run.** -/
theorem fillSpecs (h : progress.Follows start past)
    (hrun : Catalog.fillSpecs config launcher progress specs = (last, none)) :
    last.Follows start
      (past ++ Catalog.turns config launcher progress.holdings.registry specs) := by
  induction specs generalizing progress past with
  | nil =>
      obtain rfl : progress = last := congrArg Prod.fst hrun
      rw [Catalog.turns, List.append_nil]
      exact h
  | cons spec rest ih =>
      obtain ⟨next, hstep, hrest⟩ := exists_of_fillSpecs_cons hrun
      obtain ⟨id, -, hleft, -⟩ := exists_of_fillSpec hstep
      have hnext := ih (h.fillSpec hstep) hrest
      rw [List.append_assoc, hleft] at hnext
      exact hnext

end Progress.Follows

/-! ## A filling that comes to its end -/

/-- **The client is derived at a turn**: from the client that then stands under the id of the
source, with the words of the command, the mounts of the configuration and the id of the
specification. -/
def Derives (config : CatalogConfig) (launcher : Launcher) (turn : Turn) (client : Client) : Prop :=
  ∃ source command mapping id, turn.registry.requireNamed turn.spec.sourceId = .ok source
    ∧ Command.words turn.spec.command = .ok command
    ∧ Mapping.ofDatum config.mapping.toDatum = .ok mapping
    ∧ turn.spec.id.needId = .ok id
    ∧ client = turn.spec.client config launcher source command mapping id

/-- What comes of a turn is what comes of its specification, with what it finds. -/
lemma outcome_of_mem_turns {each : Turn} (h : each ∈ turns config launcher registry specs) :
    each.outcome = (registerSpec config launcher each.registry each.spec).map (·.client) := by
  induction specs generalizing registry with
  | nil => exact absurd h List.not_mem_nil
  | cons spec rest ih =>
      rcases List.mem_cons.1 h with rfl | hrest
      · rfl
      · exact ih hrest

/-- **The client of a turn is derived at it.** -/
lemma derives_of_mem_turns {each : Turn} (h : each ∈ turns config launcher registry specs)
    {client : Client} (hclient : each.client? = some client) :
    Derives config launcher each client := by
  rw [Turn.client?_eq_some_iff, outcome_of_mem_turns h] at hclient
  obtain ⟨registration, hspec, rfl⟩ := map_eq_ok_iff.1 hclient
  obtain ⟨-, source, command, mapping, id, hsource, hcommand, hmapping, hid, rfl⟩ :=
    exists_of_registerSpec hspec
  exact ⟨source, command, mapping, id, hsource, hcommand, hmapping, hid, rfl⟩

/-- A filling that comes to its end follows the turns since the packages were loaded. -/
lemma exists_follows_of_fill {around : Surroundings} {options : LoadOptions} {holdings : Holdings}
    (h : fill around options launcher config holdings = (last, none)) :
    let loaded := (loadNamed around options holdings config.packages).holdings.registry
    ∃ specs, config.specs = .ok specs
      ∧ last.Follows loaded (turns config launcher loaded specs) := by
  obtain ⟨specs, packages, hspecs, hrun⟩ := exists_of_fill h
  exact ⟨specs, hspecs, (Progress.Follows.initial _ packages _).fillSpecs hrun⟩

/-- **What a filling that comes to its end reports**, whatever ids its specifications are for and
made from.

* The report tells of the turns: the ids with a success, each once and in the order of the first
  one; and the ids whose last specification failed, each with the failure of that one.
* All is well exactly when the last specification for every id succeeded.
* Under every id that is reported as registered, there is the client that was derived at the turn of
  the last success for it. -/
theorem report_of_fill {around : Surroundings} {options : LoadOptions} {holdings : Holdings}
    (hfill : fill around options launcher config holdings = (progress, none)) :
    ∃ specs, config.specs = .ok specs
      ∧ let loaded := (loadNamed around options holdings config.packages).holdings.registry
        let all := turns config launcher loaded specs
        progress.report.Tells all
        ∧ (progress.report.isOk ↔ ∀ id each, Turn.last? (·.isFor id) all = some each →
            each.client?.isSome)
        ∧ ∀ id ∈ progress.report.registered, ∃ each client,
            Turn.last? (·.succeedsFor id) all = some each
            ∧ Derives config launcher each client
            ∧ progress.holdings.registry.get? id = some client := by
  obtain ⟨specs, hspecs, htells, hget⟩ := exists_follows_of_fill hfill
  refine ⟨specs, hspecs, htells, ?_, ?_⟩
  · rw [Report.isOk_iff]
    constructor
    · intro hnone id each heach
      have hfailure := htells.failure?_eq id
      rw [hnone, heach, Option.bind_some] at hfailure
      exact Turn.failure?_eq_none_iff.1 hfailure.symm
    · intro hlast id
      rw [htells.failure?_eq, Option.bind_eq_none_iff]
      exact fun each heach => Turn.failure?_eq_none_iff.2 (hlast id each heach)
  · intro id hid
    obtain ⟨each, hmem, hlast, hsucceeds⟩ := Turn.exists_last?
      ((htells.hasRegistered_iff id).1 (List.any_eq_true.2 ⟨id, hid, beq_self_eq_true _⟩))
    obtain ⟨client, hclient⟩ := Option.isSome_iff_exists.1 (Bool.and_eq_true_iff.1 hsucceeds).1
    refine ⟨each, client, hlast, derives_of_mem_turns hmem hclient, ?_⟩
    rw [hget, hlast, Option.bind_some, hclient]
    rfl

/-- Two ids, one made from the other.  The second one fails before it succeeds, and the first one
after. -/
def chainedSpecs : List ServerSpec :=
  [goSpec, { unnamedImageSpec with id := .text "second" }, secondSpec,
   { unnamedImageSpec with id := .text "first" }]

/-- The first failure is taken back, and the second one stays, together with the client that was
registered before. -/
theorem report_of_fill_chained :
    (filledWith chainedSpecs).2 = none
      ∧ (filledWith chainedSpecs).1.report.registered = [.text "first", .text "second"]
      ∧ (filledWith chainedSpecs).1.report.failure? (.text "second") = none
      ∧ (filledWith chainedSpecs).1.report.failure? (.text "first")
        = some (.invalidServerSpec (.text "first") (.imageWithoutName (.text "own")))
      ∧ (filledWith chainedSpecs).1.report.isOk = false
      ∧ ∃ client, (filledWith chainedSpecs).1.holdings.registry.get? (.text "first") = some client
        ∧ client.command = ["gopls"] := by
  have hending : (filledWith chainedSpecs).2 = none := rfl
  have hregistered : (filledWith chainedSpecs).1.report.registered
    = [.text "first", .text "second"] := rfl
  obtain ⟨specs, hspecs, htells, hok, hclients⟩ := report_of_fill (Prod.ext rfl hending)
  obtain rfl := Except.ok.inj hspecs
  have hfailed : (filledWith chainedSpecs).1.report.failure? (.text "first")
      = some (.invalidServerSpec (.text "first") (.imageWithoutName (.text "own"))) :=
    (htells.failure?_eq (.text "first")).trans rfl
  refine ⟨hending, hregistered, (htells.failure?_eq (.text "second")).trans rfl, hfailed, ?_, ?_⟩
  · rw [Bool.eq_false_iff]
    intro hall
    exact Bool.false_ne_true (hok.1 hall (.text "first") _ rfl)
  · obtain ⟨each, client, hlast, hderives, hclient⟩ :=
      hclients (.text "first") (hregistered ▸ List.mem_cons_self)
    refine ⟨client, hclient, ?_⟩
    obtain ⟨source, command, mapping, id, -, hcommand, -, -, rfl⟩ := hderives
    obtain rfl := Option.some.inj hlast
    exact (Except.ok.inj hcommand).symm

end Catalog

end ContainerClients
