import Mathlib.Data.List.Find
import ContainerClients.Proofs.Registration

/-!
# Specifications that do not depend on each other

A specification looks up the client that it is made from, and when there is none it looks at the ids
that are registered.  So what it comes to can depend on what those before it have registered.  If no
specification is made from the client of another, then the client that it looks up is the one from
the start, and only the list of available ids in a failure still shows what came before.

* `Failure.unlisted`, `Turn.summary` — a failure without that list, and a turn without what it
  finds.
* `Registry.AgreeBut` — two registries that differ at most in the clients of specifications.
* `Catalog.turn_summary` — a turn comes to the same with both.
* **`Catalog.map_summary_turns`** — every turn of a run comes to what it comes to at the start.
* `Catalog.fillSpecs_eq_none_iff` — a run comes to its end exactly when every turn passes.
* `Catalog.Progress.SameResult` — two fillings with the same result but for the order.
* **`Catalog.fill_perm`** — independent specifications can be given in any order.
-/

namespace ContainerClients

open ContainerClients.Container

/-! ## Failures and turns by themselves -/

/-- **A failure without the ids that it lists** as available. -/
def Failure.unlisted : Failure → Failure
  | .unknownServerId id _ => .unknownServerId id []
  | failure => failure

@[simp] lemma Failure.isOwn_unlisted (failure : Failure) :
    failure.unlisted.isOwn = failure.isOwn := by
  cases failure <;> rfl

namespace Turn

/-- **What a turn comes to**, without what it finds registered. -/
def summary (turn : Turn) : Turn :=
  { turn with registry := .empty, outcome := turn.outcome.mapError Failure.unlisted }

/-- **A turn passes** unless it ends the filling. -/
def passes (turn : Turn) : Bool :=
  match turn.outcome with
  | .ok _ => true
  | .error failure => failure.isOwn

variable {turn : Turn} {turns others : List Turn} {id : ClientId}

@[simp] lemma client?_summary (turn : Turn) : turn.summary.client? = turn.client? := by
  rw [client?, client?, summary]
  cases turn.outcome <;> rfl

@[simp] lemma failure?_summary (turn : Turn) :
    turn.summary.failure? = turn.failure?.map Failure.unlisted := by
  rw [failure?, failure?, summary]
  cases turn.outcome <;> rfl

@[simp] lemma passes_summary (turn : Turn) : turn.summary.passes = turn.passes := by
  rw [passes, passes, summary]
  cases turn.outcome with
  | ok client => rfl
  | error failure => exact failure.isOwn_unlisted

lemma forall_passes_summary (turns : List Turn) :
    (∀ each ∈ turns.map summary, each.passes) ↔ ∀ each ∈ turns, each.passes := by
  simp only [List.forall_mem_map, passes_summary]

@[simp] lemma isFor_summary (turn : Turn) (id : ClientId) :
    turn.summary.isFor id = turn.isFor id := rfl

@[simp] lemma succeedsFor_summary (turn : Turn) (id : ClientId) :
    turn.summary.succeedsFor id = turn.succeedsFor id := by
  rw [succeedsFor, succeedsFor, client?_summary, isFor_summary]

/-- The last turn of a kind, by the summaries. -/
lemma last?_summary {kind : Turn → Bool} (hkind : ∀ turn, kind turn.summary = kind turn)
    (turns : List Turn) : last? kind (turns.map summary) = (last? kind turns).map summary := by
  rw [last?, last?, ← List.map_reverse, List.find?_map]
  congr 2
  exact funext hkind

lemma client?_last?_summary (turns : List Turn) (id : ClientId) :
    (last? (·.succeedsFor id) (turns.map summary)).bind client?
      = (last? (·.succeedsFor id) turns).bind client? := by
  rw [last?_summary fun turn => turn.succeedsFor_summary id, Option.bind_map]
  congr 1
  exact funext client?_summary

/-- The failure of the last turn is told by the summaries, but for the ids that it lists. -/
lemma failure?_last?_summary (turns : List Turn) (id : ClientId) :
    (last? (·.isFor id) (turns.map summary)).bind failure?
      = ((last? (·.isFor id) turns).bind failure?).map Failure.unlisted := by
  rw [last?_summary fun turn => turn.isFor_summary id]
  cases last? (·.isFor id) turns with
  | none => rfl
  | some turn => exact turn.failure?_summary

lemma exists_succeedsFor_summary (turns : List Turn) (id : ClientId) :
    (∃ each ∈ turns.map summary, each.succeedsFor id) ↔ ∃ each ∈ turns, each.succeedsFor id := by
  constructor
  · rintro ⟨_, hmem, hsucceeds⟩
    obtain ⟨each, heach, rfl⟩ := List.mem_map.1 hmem
    exact ⟨each, heach, (succeedsFor_summary each id).symm.trans hsucceeds⟩
  · rintro ⟨each, heach, hsucceeds⟩
    exact ⟨each.summary, List.mem_map_of_mem heach, (succeedsFor_summary each id).trans hsucceeds⟩

end Turn

/-- A turn that is the only one of its kind is the last one in every order. -/
lemma Turn.last?_eq_of_perm {kind : Turn → Bool} {turns others : List Turn}
    (hperm : turns.Perm others)
    (honly : ∀ a ∈ turns, ∀ b ∈ turns, kind a → kind b → a = b) :
    last? kind turns = last? kind others := by
  have hreversed := (List.reverse_perm turns).trans (hperm.trans (List.reverse_perm others).symm)
  refine List.find?_eq_find?_of_perm hreversed ?_
  rintro a ⟨ha, hkind⟩ b ⟨hb, hkind'⟩
  exact honly a (List.mem_reverse.1 ha) b (List.mem_reverse.1 hb) hkind hkind'

/-! ## Registries that differ in the clients of specifications -/

namespace Registry

variable {a b : Registry} {specs : List ServerSpec}

/-- **Two registries agree** but for the clients of some specifications. -/
def AgreeBut (specs : List ServerSpec) (a b : Registry) : Prop :=
  ∀ id : ClientId, (∀ spec ∈ specs, spec.id ≠ id.toDatum) → a.get? id = b.get? id

/-- The ids of a registry are texts exactly when all that is found has a text for its id. -/
lemma hasTextIds_iff {registry : Registry} :
    registry.HasTextIds ↔ ∀ id, registry.contains id → id.IsText := by
  constructor
  · intro h id hid
    obtain ⟨place, hplace, hkey⟩ := List.mem_map.1 (contains_iff.1 hid)
    exact ((h place hplace).key_eq_iff.1 hkey.symm) ▸ h place hplace
  · exact fun h place hplace => h place.id (contains_iff.2 (List.mem_map_of_mem hplace))

/-- **Without texts for all ids, an unknown id cannot be reported.** -/
lemma require_of_not_hasTextIds {registry : Registry} (h : ¬ registry.HasTextIds) {id : ClientId}
    (hid : registry.get? id = none) : registry.require id = .error .mistyped := by
  rw [require, hid]
  dsimp only
  rw [ids]
  split_ifs with hcomparable
  · obtain ⟨place, hplace, hother⟩ : ∃ place ∈ registry.places, ¬ place.id.IsText := by
      simpa [HasTextIds] using h
    have hmem : place.id ∈ registry.places.map (·.id) := List.mem_map_of_mem hplace
    -- all ids are of the kind of this one, and so the first of them is no text either
    have hnone : ∀ id ∈ registry.sortedIds, ¬ id.IsText := by
      intro id hid htext
      rw [sortedIds, ClientId.sorted, List.mem_mergeSort] at hid
      have hkind := List.all_eq_true.1 (List.all_eq_true.1 hcomparable id hid) place.id hmem
      exact hother (htext.of_sameKind hkind)
    have hne : registry.sortedIds ≠ [] := by
      rw [sortedIds, ClientId.sorted, ne_eq, ← List.length_eq_zero_iff, List.length_mergeSort,
        List.length_eq_zero_iff]
      exact List.ne_nil_of_mem hmem
    obtain ⟨first, rest, hsorted⟩ := List.exists_cons_of_ne_nil hne
    have hfirst : first.toDatum.isText = false := by
      rw [Bool.eq_false_iff, ne_eq, ClientId.isText_toDatum]
      exact hnone first (hsorted ▸ List.mem_cons_self)
    change Except.error (Failure.unknownId _ (List.map _ registry.sortedIds)) = _
    rw [hsorted, Failure.unknownId, List.map_cons, Failure.listedIds, List.take_succ_cons,
      List.all_cons, hfirst]
    rfl
  · rfl

namespace AgreeBut

lemma refl (specs : List ServerSpec) (registry : Registry) : AgreeBut specs registry registry :=
  fun _ _ => rfl

lemma symm (h : AgreeBut specs a b) : AgreeBut specs b a := fun id hid => (h id hid).symm

/-- Texts for all ids are seen in both registries, when the specifications have texts for ids. -/
lemma hasTextIds (h : AgreeBut specs a b) (htext : ∀ spec ∈ specs, ∃ name, spec.id = .text name)
    (ha : a.HasTextIds) : b.HasTextIds := by
  refine hasTextIds_iff.2 fun id hid => ?_
  by_cases hspec : ∃ spec ∈ specs, spec.id = id.toDatum
  · obtain ⟨spec, hmem, heq⟩ := hspec
    obtain ⟨name, hname⟩ := htext spec hmem
    exact ⟨name, ClientId.toDatum_eq_text_iff.1 (heq.symm.trans hname)⟩
  · refine hasTextIds_iff.1 ha id ?_
    rw [contains, h id fun spec hmem heq => hspec ⟨spec, hmem, heq⟩]
    exact hid

/-- **Looking for an id that is none of theirs comes to the same**, but for the ids that are
listed. -/
lemma requireNamed (h : AgreeBut specs a b) (htext : ∀ spec ∈ specs, ∃ name, spec.id = .text name)
    {d : Datum} (hd : ∀ spec ∈ specs, d ≠ spec.id) :
    (a.requireNamed d).mapError Failure.unlisted
      = (b.requireNamed d).mapError Failure.unlisted := by
  rw [Registry.requireNamed, Registry.requireNamed]
  cases hid : d.needId with
  | error failure => rfl
  | ok id =>
      obtain rfl := ClientId.toDatum_of_ofDatum? (Datum.needId_eq_ok_iff.1 hid)
      have hget := h id fun spec hmem heq => hd spec hmem heq.symm
      change (a.require id).mapError _ = (b.require id).mapError _
      cases hfound : a.get? id with
      | some client => rw [require, require, ← hget, hfound]
      | none =>
          have hfound' := hget.symm.trans hfound
          by_cases ha : a.HasTextIds
          · rw [ha.require_eq hfound, (h.hasTextIds htext ha).require_eq hfound']
            rfl
          · rw [require_of_not_hasTextIds ha hfound, require_of_not_hasTextIds
              (fun hb => ha (h.symm.hasTextIds htext hb)) hfound']

/-- **The client of one of the specifications** makes no difference. -/
lemma register (h : AgreeBut specs a b) {spec : ServerSpec} (hspec : spec ∈ specs) {client : Client}
    (hid : spec.id = client.id.toDatum) (htext : client.id.IsText) :
    AgreeBut specs a (b.register client) := by
  intro id hothers
  -- the ids are texts, and so they have the same key only if they are the same
  have hne : ¬ id.key = client.id.key := by
    rw [htext.key_eq_iff]
    rintro rfl
    exact hothers spec hspec hid
  rw [get?_register, if_neg hne]
  exact h id hothers

end AgreeBut

end Registry

/-! ## Turns of independent specifications -/

/-- **Specifications that do not depend on each other**: their ids are texts, and none is made from
the client of another, or of its own. -/
structure ServerSpec.Independent (specs : List ServerSpec) : Prop where
  /-- the ids are texts -/
  id_text : ∀ spec ∈ specs, ∃ name, spec.id = .text name
  /-- no specification is made from the client of one of them -/
  sourceId_ne : ∀ spec ∈ specs, ∀ other ∈ specs, spec.sourceId ≠ other.id

namespace Catalog

variable {config : CatalogConfig} {launcher : Launcher} {a b registry : Registry}
  {spec : ServerSpec} {specs all others : List ServerSpec} {progress last : Progress}

/-- **What comes of a turn**, check by check. -/
lemma outcome_turn (config : CatalogConfig) (launcher : Launcher) (registry : Registry)
    (spec : ServerSpec) :
    (turn config launcher registry spec).outcome
      = if spec.id.same spec.sourceId then .error (.invalidServerSpec spec.sourceId .sameId)
        else if spec.image.isTruthy && !spec.containerName.isTruthy then
          .error (.invalidServerSpec spec.id (.imageWithoutName spec.image))
        else (registry.requireNamed spec.sourceId).bind fun source =>
          (Command.words spec.command).bind fun command =>
            (Mapping.ofDatum config.mapping.toDatum).bind fun mapping =>
              spec.id.needId.map (spec.client config launcher source command mapping) := by
  rw [turn, registerSpec_eq]
  split_ifs
  · rfl
  · rfl
  · simp only [map_bind_eq, map_map_eq]
    rfl

/-- **A turn comes to the same with two registries that agree** on all but the clients of
specifications that it is not made from. -/
lemma turn_summary (h : a.AgreeBut all b) (hall : ServerSpec.Independent all) (hspec : spec ∈ all) :
    (turn config launcher a spec).summary = (turn config launcher b spec).summary := by
  have hsource := h.requireNamed hall.id_text (hall.sourceId_ne spec hspec)
  have houtcome : (turn config launcher a spec).outcome.mapError Failure.unlisted
      = (turn config launcher b spec).outcome.mapError Failure.unlisted := by
    rw [outcome_turn, outcome_turn]
    split_ifs
    · rfl
    · rfl
    · rw [mapError_bind, mapError_bind, hsource]
  rw [Turn.summary, Turn.summary, houtcome]
  rfl

lemma id_of_outcome_turn {client : Client}
    (h : (turn config launcher registry spec).outcome = .ok client) :
    spec.id = client.id.toDatum := by
  obtain ⟨registration, hspec, rfl⟩ := map_eq_ok_iff.1 h
  obtain ⟨-, source, command, mapping, id, -, -, -, hid, rfl⟩ := exists_of_registerSpec hspec
  exact ClientId.toDatum_of_ofDatum? (Datum.needId_eq_ok_iff.1 hid)

/-- **What a turn leaves** agrees with what was there before, but for its own client. -/
lemma agreeBut_left (h : a.AgreeBut all b) (hall : ServerSpec.Independent all)
    (hspec : spec ∈ all) : a.AgreeBut all (turn config launcher b spec).left := by
  rw [Turn.left]
  cases hturn : (turn config launcher b spec).outcome with
  | error failure => exact h
  | ok client =>
      obtain ⟨name, hname⟩ := hall.id_text spec hspec
      have hid := id_of_outcome_turn hturn
      exact h.register hspec hid ⟨name, ClientId.toDatum_eq_text_iff.1 (hid.symm.trans hname)⟩

/-- **Every turn of a run comes to what it comes to at the start**, and at any registry that agrees
with the one at the start. -/
theorem map_summary_turns (hall : ServerSpec.Independent all) (hsub : specs ⊆ all)
    (h : a.AgreeBut all b) :
    (turns config launcher b specs).map Turn.summary
      = specs.map fun spec => (turn config launcher a spec).summary := by
  induction specs generalizing b with
  | nil => rfl
  | cons spec rest ih =>
      have hspec := hsub List.mem_cons_self
      -- the registry that the rest finds is another, but it still agrees with the one at the start
      rw [turns, List.map_cons, List.map_cons, turn_summary h hall hspec,
        ih (fun other ho => hsub (List.mem_cons_of_mem _ ho)) (agreeBut_left h hall hspec)]

/-! ## When a run comes to its end -/

/-- A specification with a text for its id ends the filling unless its turn passes. -/
lemma fillSpec_eq_none_iff {name : String} (hid : spec.id = .text name) :
    (fillSpec config launcher progress spec).2 = none
      ↔ (turn config launcher progress.holdings.registry spec).passes := by
  rw [Turn.passes, turn]
  cases hspec : registerSpec config launcher progress.holdings.registry spec with
  | ok registration =>
      rw [fillSpec_of_ok hspec]
      exact iff_of_true rfl rfl
  | error failure =>
      by_cases hown : failure.isOwn
      · rw [fillSpec_of_own hspec hown, hid, Progress.skip_text]
        exact iff_of_true rfl hown
      · rw [fillSpec_of_foreign hspec hown]
        exact iff_of_false (Option.some_ne_none _) hown

/-- **A run comes to its end exactly when every turn passes.** -/
lemma fillSpecs_eq_none_iff (hids : ∀ spec ∈ specs, ∃ name, spec.id = .text name) :
    (fillSpecs config launcher progress specs).2 = none
      ↔ ∀ each ∈ turns config launcher progress.holdings.registry specs, each.passes := by
  induction specs generalizing progress with
  | nil => exact iff_of_true rfl fun each heach => absurd heach List.not_mem_nil
  | cons spec rest ih =>
      obtain ⟨name, hname⟩ := hids spec List.mem_cons_self
      rw [turns, List.forall_mem_cons, ← fillSpec_eq_none_iff hname]
      cases hstep : fillSpec config launcher progress spec with
      | mk next ending =>
          cases ending with
          | none =>
              obtain ⟨id, -, hleft, -⟩ := exists_of_fillSpec hstep
              rw [fillSpecs_cons_of_none hstep, and_iff_right rfl, ← hleft]
              exact ih fun other ho => hids other (List.mem_cons_of_mem _ ho)
          | some failure =>
              rw [fillSpecs, hstep]
              exact iff_of_false (Option.some_ne_none _) fun h => Option.some_ne_none _ h.1

/-- **Whether a run of independent specifications comes to its end** is seen at the start. -/
lemma fillSpecs_eq_none_iff_of_independent (hall : ServerSpec.Independent specs) :
    (fillSpecs config launcher progress specs).2 = none
      ↔ ∀ spec ∈ specs, (turn config launcher progress.holdings.registry spec).passes := by
  rw [fillSpecs_eq_none_iff hall.id_text, ← Turn.forall_passes_summary,
    map_summary_turns hall (List.Subset.refl specs) (.refl specs progress.holdings.registry),
    List.forall_mem_map]
  simp only [Turn.passes_summary]

/-! ## Any order -/

/-- What was loaded, and what is reported of it, stays in a run. -/
lemma imported_and_packages_fillSpecs (config : CatalogConfig) (launcher : Launcher)
    (progress : Progress) (specs : List ServerSpec) :
    (fillSpecs config launcher progress specs).1.holdings.imported = progress.holdings.imported
      ∧ (fillSpecs config launcher progress specs).1.report.packages
          = progress.report.packages := by
  refine kept_fillSpecs (motive := fun later => later.holdings.imported = progress.holdings.imported
    ∧ later.report.packages = progress.report.packages) (fun later spec _ h => ?_) ⟨rfl, rfl⟩
  rw [fillSpec]
  split
  · exact h
  · split
    · rw [Progress.skip]
      split <;> exact h
    · exact h

end Catalog

/-- An id is reported as registered when there was a success for it, if the specifications have
texts for their ids. -/
lemma Report.Tells.mem_registered_iff {report : Report} {turns : List Turn} (h : report.Tells turns)
    (hids : ∀ each ∈ turns, ∃ name, each.spec.id = .text name) {id : ClientId} :
    id ∈ report.registered ↔ ∃ each ∈ turns, each.succeedsFor id := by
  rw [← h.hasRegistered_iff, hasRegistered, List.any_eq_true]
  constructor
  · exact fun hid => ⟨id, hid, beq_self_eq_true _⟩
  · rintro ⟨found, hfound, hkey⟩
    -- what is found has the id of a specification, and that is a text
    obtain ⟨each, heach, hsucceeds⟩ :=
      (h.hasRegistered_iff found).1 (List.any_eq_true.2 ⟨found, hfound, beq_self_eq_true _⟩)
    obtain ⟨name, hname⟩ := hids each heach
    have hisFor : (ClientId.ofDatum? (.text name)).any (·.key == found.key) := by
      rw [← hname]
      exact (Bool.and_eq_true_iff.1 hsucceeds).2
    have htext : found = .text name := ClientId.key_eq_text_iff.1 (beq_iff_eq.1 hisFor).symm
    have hid : id = found :=
      (ClientId.IsText.key_eq_iff ⟨name, htext⟩).1 (beq_iff_eq.1 hkey).symm
    exact hid ▸ hfound

namespace Catalog

variable {config : CatalogConfig} {launcher : Launcher} {registry : Registry}
  {specs others : List ServerSpec} {progress last : Progress} {id : ClientId}

/-- **Two fillings have the same result**, whatever order it came in. -/
structure Progress.SameResult (one other : Progress) : Prop where
  /-- the same client stands under every id, or none does -/
  get?_eq : ∀ id, one.holdings.registry.get? id = other.holdings.registry.get? id
  /-- the same modules are imported -/
  imported_eq : one.holdings.imported = other.holdings.imported
  /-- the same ids are reported as registered -/
  mem_registered_iff : ∀ id, id ∈ one.report.registered ↔ id ∈ other.report.registered
  /-- the same failure of every id is reported, but for the ids that it lists, or none is -/
  failure?_eq : ∀ id, (one.report.failure? id).map Failure.unlisted
    = (other.report.failure? id).map Failure.unlisted
  /-- the same is reported of the packages -/
  packages_eq : one.report.packages = other.report.packages

lemma id_text_of_mem_turns (hids : ∀ spec ∈ specs, ∃ name, spec.id = .text name) :
    ∀ each ∈ turns config launcher registry specs, ∃ name, each.spec.id = .text name :=
  fun each heach => hids each.spec (spec_mem_of_mem_turns heach)

/-- Among specifications with ids of their own, only one is for an id. -/
lemma turn_eq_of_isFor (hall : ServerSpec.Independent specs)
    (hdistinct : (specs.map (·.id)).Nodup) {turn other : Turn}
    (ht : turn ∈ specs.map fun spec => (Catalog.turn config launcher registry spec).summary)
    (ho : other ∈ specs.map fun spec => (Catalog.turn config launcher registry spec).summary)
    (hturn : turn.isFor id) (hother : other.isFor id) : turn = other := by
  obtain ⟨spec, hspec, rfl⟩ := List.mem_map.1 ht
  obtain ⟨spec', hspec', rfl⟩ := List.mem_map.1 ho
  obtain ⟨name, hname⟩ := hall.id_text spec hspec
  obtain ⟨name', hname'⟩ := hall.id_text spec' hspec'
  rw [Turn.isFor_summary, Turn.isFor, Catalog.turn, hname] at hturn
  rw [Turn.isFor_summary, Turn.isFor, Catalog.turn, hname'] at hother
  obtain rfl : name = name' :=
    ClientId.key_text_inj.1 ((beq_iff_eq.1 hturn).trans (beq_iff_eq.1 hother).symm)
  rw [List.inj_on_of_nodup_map hdistinct hspec hspec' (hname.trans hname'.symm)]

/-- **Runs of independent specifications in two orders** both come to their end, with the same
result, or neither does. -/
lemma fillSpecs_perm (hall : ServerSpec.Independent specs) (hdistinct : (specs.map (·.id)).Nodup)
    (hperm : specs.Perm others) (holdings : Holdings) (packages : Outcomes) (log : Log) :
    let one := fillSpecs config launcher ⟨holdings, { packages }, log⟩ specs
    let other := fillSpecs config launcher ⟨holdings, { packages }, log⟩ others
    (one.2 = none ↔ other.2 = none) ∧ (one.2 = none → one.1.SameResult other.1) := by
  intro one other
  have hothers : ServerSpec.Independent others :=
    ⟨fun spec hs => hall.id_text spec (hperm.mem_iff.2 hs),
      fun spec hs later hl => hall.sourceId_ne spec (hperm.mem_iff.2 hs) later (hperm.mem_iff.2 hl)⟩
  have hends : one.2 = none ↔ other.2 = none := by
    rw [fillSpecs_eq_none_iff_of_independent hall, fillSpecs_eq_none_iff_of_independent hothers]
    simp only [hperm.mem_iff]
  refine ⟨hends, fun hone => ?_⟩
  have hfollows := (Progress.Follows.initial holdings packages log).fillSpecs
    (show one = (one.1, none) from Prod.ext rfl hone)
  have hfollows' := (Progress.Follows.initial holdings packages log).fillSpecs
    (show other = (other.1, none) from Prod.ext rfl (hends.1 hone))
  rw [List.nil_append] at hfollows hfollows'
  -- both runs have the turns that the specifications have at the start, in two orders
  have hturns : (turns config launcher holdings.registry specs).map Turn.summary
      = specs.map fun spec => (turn config launcher holdings.registry spec).summary :=
    map_summary_turns hall (List.Subset.refl specs) (.refl specs _)
  have hturns' : (turns config launcher holdings.registry others).map Turn.summary
      = others.map fun spec => (turn config launcher holdings.registry spec).summary :=
    map_summary_turns hothers (List.Subset.refl others) (.refl others _)
  have hsame := hperm.map fun spec => (turn config launcher holdings.registry spec).summary
  have hkept := imported_and_packages_fillSpecs config launcher ⟨holdings, { packages }, log⟩
  refine ⟨fun id => ?_, (hkept specs).1.trans (hkept others).1.symm, fun id => ?_, fun id => ?_,
    (hkept specs).2.trans (hkept others).2.symm⟩
  · rw [hfollows.get?_eq, hfollows'.get?_eq,
      ← Turn.client?_last?_summary (turns config launcher _ specs), hturns,
      ← Turn.client?_last?_summary (turns config launcher _ others), hturns',
      Turn.last?_eq_of_perm hsame]
    exact fun turn ht other ho hturn hother => turn_eq_of_isFor hall hdistinct ht ho
      (Bool.and_eq_true_iff.1 hturn).2 (Bool.and_eq_true_iff.1 hother).2
  · rw [hfollows.tells.mem_registered_iff (id_text_of_mem_turns hall.id_text),
      hfollows'.tells.mem_registered_iff (id_text_of_mem_turns hothers.id_text),
      ← Turn.exists_succeedsFor_summary (turns config launcher _ specs), hturns,
      ← Turn.exists_succeedsFor_summary (turns config launcher _ others), hturns']
    simp only [hsame.mem_iff]
  · rw [hfollows.tells.failure?_eq, hfollows'.tells.failure?_eq,
      ← Turn.failure?_last?_summary (turns config launcher _ specs), hturns,
      ← Turn.failure?_last?_summary (turns config launcher _ others), hturns',
      Turn.last?_eq_of_perm hsame]
    exact fun turn ht other ho hturn hother => turn_eq_of_isFor hall hdistinct ht ho hturn hother

/-- **Independent specifications can be given in any order.**  Let their ids be texts, all
different, and none of them made from the client of another.  Filling comes to its end in every
order or in none, whatever is registered and installed.  If it does, then the same clients stand
under the same ids, and the same ids are reported as registered, and the same as failed, each with
the same failure but for the ids that are listed as available. -/
theorem fill_perm {around : Surroundings} {options : LoadOptions} {launcher : Launcher}
    {config : CatalogConfig} {holdings : Holdings} {specs others : List ServerSpec}
    (hall : ServerSpec.Independent specs) (hdistinct : (specs.map (·.id)).Nodup)
    (hperm : specs.Perm others) :
    let one := fill around options launcher (config.withSpecs specs) holdings
    let other := fill around options launcher (config.withSpecs others) holdings
    (one.2 = none ↔ other.2 = none) ∧ (one.2 = none → one.1.SameResult other.1) := by
  intro one other
  cases houtcome : (loadNamed around options holdings config.packages).outcome with
  | error failure =>
      have hends (specs : List ServerSpec) :
          (fill around options launcher (config.withSpecs specs) holdings).2 = some failure := by
        have hload : (loadNamed around options holdings
          (config.withSpecs specs).packages).outcome = .error failure := houtcome
        rw [fill_of_error hload]
      rw [show one.2 = _ from hends specs, show other.2 = _ from hends others]
      exact ⟨Iff.rfl, fun h => absurd h (Option.some_ne_none _)⟩
  | ok packages =>
      rw [show one = _ from fill_withSpecs_of_ok houtcome specs,
        show other = _ from fill_withSpecs_of_ok houtcome others]
      exact fillSpecs_perm hall hdistinct hperm _ _ _

/-- A success and a failure in two orders. -/
theorem fill_perm_unnamedImage :
    ServerSpec.Independent [goSpec, unnamedImageSpec]
      ∧ ([goSpec, unnamedImageSpec].map (·.id)).Nodup
      ∧ [goSpec, unnamedImageSpec].Perm [unnamedImageSpec, goSpec]
      ∧ (filledWith [goSpec, unnamedImageSpec]).2 = none
      ∧ (filledWith [unnamedImageSpec, goSpec]).2 = none
      ∧ (filledWith [goSpec, unnamedImageSpec]).1.SameResult
          (filledWith [unnamedImageSpec, goSpec]).1
      ∧ .text "first" ∈ (filledWith [unnamedImageSpec, goSpec]).1.report.registered
      ∧ (filledWith [unnamedImageSpec, goSpec]).1.report.failure? (.text "unnamed")
        = some (.invalidServerSpec (.text "unnamed") (.imageWithoutName (.text "own"))) := by
  have hall : ServerSpec.Independent [goSpec, unnamedImageSpec] := by
    refine ⟨?_, ?_⟩ <;> simp [goSpec, unnamedImageSpec, ServerSpec.plain]
  have hdistinct : ([goSpec, unnamedImageSpec].map (·.id)).Nodup := by
    simp [goSpec, unnamedImageSpec, ServerSpec.plain]
  have hperm : [goSpec, unnamedImageSpec].Perm [unnamedImageSpec, goSpec] := List.Perm.swap _ _ _
  have hends : (filledWith [goSpec, unnamedImageSpec]).2 = none := rfl
  have hregistered : (filledWith [unnamedImageSpec, goSpec]).1.report.registered
    = [.text "first"] := rfl
  obtain ⟨hiff, hsame⟩ :=
    @fill_perm bundledOnly {} .standard (goOnly []) .initial _ _ hall hdistinct hperm
  exact ⟨hall, hdistinct, hperm, hends, hiff.1 hends, hsame hends,
    hregistered ▸ List.mem_singleton_self _, rfl⟩

end Catalog

end ContainerClients
