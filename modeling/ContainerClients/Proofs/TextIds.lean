import ContainerClients.Package.Loading
import ContainerClients.Proofs.Filling

/-!
# Registries whose ids are texts

An id may be any value without parts, but it is meant to be a text.  As long as the registry and all
that is installed keep to that, looking for an id fails in one way only, and loading packages comes
to its end and leaves such a registry behind.

* `Registry.HasTextIds`, `Export.HasTextIds`, `Installed.HasTextIds` — every id is a text.
* `Registry.HasTextIds.register`, `requireNamed` — registering keeps to it, and an unknown id is
  reported as such.
* `Loaded.Keeps` — a loading that comes to its end with such a registry.
* **`keeps_loadPackages`** — loading packages does.
-/

namespace ContainerClients

/-- A value that is a text. -/
lemma Datum.exists_text {d : Datum} (h : d.isText) : ∃ s, d = .text s := by
  cases d with
  | text s => exact ⟨s, rfl⟩
  | _ => contradiction

/-- **An id that is a text.** -/
def ClientId.IsText (id : ClientId) : Prop := ∃ s, id = .text s

namespace ClientId

/-- Only a text has the key of a text. -/
lemma key_eq_text_iff {id : ClientId} {s : String} : id.key = .text s ↔ id = .text s := by
  cases id <;> simp [key]

/-- **An id that is a text is told apart from all others.** -/
lemma IsText.key_eq_iff {id other : ClientId} (h : id.IsText) :
    other.key = id.key ↔ other = id := by
  obtain ⟨s, rfl⟩ := h
  exact key_eq_text_iff

/-- A value is the id that it reads as. -/
lemma toDatum_of_ofDatum? {d : Datum} {id : ClientId} (h : ofDatum? d = some id) :
    d = id.toDatum := by
  cases d with
  | list _ | record _ => contradiction
  | _ =>
      obtain rfl := Option.some.inj h
      rfl

lemma toDatum_eq_text_iff {id : ClientId} {s : String} : id.toDatum = .text s ↔ id = .text s := by
  cases id <;> simp [toDatum]

lemma isText_toDatum {id : ClientId} : id.toDatum.isText ↔ id.IsText := by
  cases id <;> simp [toDatum, Datum.isText, IsText]

/-- What can be put in order with a text is a text. -/
lemma IsText.of_sameKind {id other : ClientId} (h : id.IsText)
    (hkind : id.key.sameKind other.key) : other.IsText := by
  obtain ⟨s, rfl⟩ := h
  cases other with
  | text t => exact ⟨t, rfl⟩
  | _ => contradiction

/-- Ids that are texts, one by one. -/
lemma exists_texts {ids : List ClientId} (h : ∀ id ∈ ids, id.IsText) :
    ∃ texts : List String, ids = texts.map .text := by
  induction ids with
  | nil => exact ⟨[], rfl⟩
  | cons id rest ih =>
      obtain ⟨s, rfl⟩ := h id List.mem_cons_self
      obtain ⟨texts, rfl⟩ := ih fun next hn => h next (List.mem_cons_of_mem _ hn)
      exact ⟨s :: texts, rfl⟩

end ClientId

/-! ## Registries -/

namespace Registry

/-- **All ids are texts.** -/
def HasTextIds (registry : Registry) : Prop := ∀ place ∈ registry.places, place.id.IsText

lemma hasTextIds_empty : empty.HasTextIds := fun _ hp => absurd hp List.not_mem_nil

end Registry

/-- The ids of places stay texts when one more client with such an id is put among them. -/
lemma isText_putClient {client : Client} (hclient : client.id.IsText) {places : List Place}
    (h : ∀ place ∈ places, place.id.IsText) :
    ∀ place ∈ putClient client places, place.id.IsText := by
  induction places with
  | nil =>
      intro place hplace
      rw [putClient, List.mem_singleton] at hplace
      rw [hplace]
      exact hclient
  | cons first rest ih =>
      have hrest := fun place hp => h place (List.mem_cons_of_mem first hp)
      intro place hplace
      rw [putClient] at hplace
      split at hplace
      -- the id of a place stays as it was first given
      · rcases List.mem_cons.1 hplace with rfl | hp
        · exact h first List.mem_cons_self
        · exact hrest place hp
      · rcases List.mem_cons.1 hplace with rfl | hp
        · exact h place List.mem_cons_self
        · exact ih hrest place hp

namespace Registry.HasTextIds

variable {registry : Registry}

/-- Registering a client with such an id keeps all ids texts. -/
lemma register (h : registry.HasTextIds) {client : Client} (hclient : client.id.IsText) :
    (registry.register client).HasTextIds :=
  isText_putClient hclient h

lemma admits : Registry.Admits Registry.HasTextIds (·.id.IsText) :=
  fun _ _ h hclient => h.register hclient

lemma registerAll (h : registry.HasTextIds) {clients : List Client}
    (hclients : ∀ client ∈ clients, client.id.IsText) :
    (registry.registerAll clients).HasTextIds := admits.registerAll h hclients

lemma isText_of_mem (h : registry.HasTextIds) {id : ClientId}
    (hid : id ∈ registry.places.map (·.id)) : id.IsText := by
  obtain ⟨place, hplace, rfl⟩ := List.mem_map.1 hid
  exact h place hplace

/-- The ids in order are texts. -/
lemma isText_of_mem_sortedIds (h : registry.HasTextIds) {id : ClientId}
    (hid : id ∈ registry.sortedIds) : id.IsText := by
  rw [sortedIds, ClientId.sorted, List.mem_mergeSort] at hid
  exact h.isText_of_mem hid

/-- The ids are texts, so they can be put in order. -/
lemma ids_eq (h : registry.HasTextIds) : registry.ids = .ok registry.sortedIds := by
  obtain ⟨texts, htexts⟩ := ClientId.exists_texts fun id hid => h.isText_of_mem hid
  rw [ids, htexts]
  exact if_pos (ClientId.areComparable_texts texts)

/-- **An id that is not registered is reported as unknown**, with the ids that are. -/
lemma require_eq (h : registry.HasTextIds) {id : ClientId} (hid : registry.get? id = none) :
    registry.require id
      = .error (.unknownServerId id.toDatum (registry.sortedIds.map ClientId.toDatum)) := by
  -- sorting the ids leaves them texts, and so they can be listed
  have hlisted : ((registry.sortedIds.map ClientId.toDatum).take Failure.listedIds).all
      Datum.isText = true := by
    rw [List.all_eq_true]
    intro d hd
    obtain ⟨id, hmem, rfl⟩ := List.mem_map.1 (List.mem_of_mem_take hd)
    obtain ⟨t, rfl⟩ := h.isText_of_mem_sortedIds hmem
    rfl
  rw [Registry.require, hid]
  dsimp only
  rw [h.ids_eq]
  exact congrArg Except.error (if_pos hlisted)

/-- **An id that is looked for is found or reported as unknown.** -/
lemma requireNamed (h : registry.HasTextIds) {id : Datum} (hid : id.isText) :
    (∃ client, registry.requireNamed id = .ok client)
      ∨ ∃ available, registry.requireNamed id = .error (.unknownServerId id available) := by
  obtain ⟨s, rfl⟩ := Datum.exists_text hid
  change (∃ client, registry.require (.text s) = .ok client)
    ∨ ∃ available, registry.require (.text s) = .error _
  cases hfound : registry.get? (.text s) with
  | some client =>
      rw [Registry.require, hfound]
      exact .inl ⟨client, rfl⟩
  | none => exact .inr ⟨_, h.require_eq hfound⟩

end Registry.HasTextIds

/-! ## What is installed -/

/-- **What a module gives has only clients whose ids are texts**, beside other things. -/
def Export.HasTextIds : Export → Prop
  | .collection items => ∀ item ∈ items, item = .foreign ∨ ∃ client, item = .client client
      ∧ client.id.IsText
  | _ => True

/-- **The modules and entry points give only clients whose ids are texts.** -/
structure Installed.HasTextIds (installed : Installed) : Prop where
  /-- what the modules give -/
  exports : ∀ package ∈ installed.packages, ∀ member,
    package.member? clientsName = some member → member.value.given.HasTextIds
  /-- what the entry points give -/
  entryPoints : ∀ entryPoint ∈ (installed.entryPointsOf entryPointGroup).1,
    ∀ imported given imported', entryPoint.load installed imported = (.ok given, imported') →
      given.HasTextIds

namespace Installed

variable {installed : Installed} {imported imported' : Imported} {package : Package}

/-- A module that is located below another is the one of its name. -/
lemma find?_of_locate {parent : Option Package} {name : String}
    (h : installed.locate imported parent name = .ok package) :
    installed.find? name = some package := by
  unfold locate at h
  split at h
  · split at h
    · rename_i found _ hfound
      obtain rfl := Except.ok.inj h
      exact hfound
    · contradiction
  · split at h
    · contradiction
    · rename_i found hfound
      obtain rfl := Except.ok.inj h
      exact hfound

/-- A module that a chain of imports comes to is one of those that are there, unless it is where the
chain starts. -/
lemma exists_find?_of_importChain {run : Imported → Package → Imported} {running : List String}
    {parent : Option Package} {names : List String}
    (hparent : ∀ above ∈ parent, ∃ name, installed.find? name = some above)
    (h : installed.importChain run running imported parent names
      = (.ok (some package), imported')) :
    ∃ name, installed.find? name = some package := by
  induction names generalizing imported parent with
  | nil =>
      have heq : parent = some package := Except.ok.inj (congrArg Prod.fst h)
      exact hparent package heq
  | cons name rest ih =>
      rw [importChain] at h
      split at h
      · exact absurd (congrArg Prod.fst h) (by simp)
      · rename_i found hfound
        have hthere : ∀ above ∈ some found, ∃ name, installed.find? name = some above := by
          intro above ha
          obtain rfl := Option.some.inj ha
          exact ⟨name, find?_of_locate hfound⟩
        split at h
        · exact ih hthere h
        · split at h
          · exact absurd (congrArg Prod.fst h) (by simp)
          · exact ih hthere h

/-- **An imported module is one of those that are there.** -/
lemma exists_find?_of_importPackage {name : String}
    (h : installed.importPackage imported name = (.ok package, imported')) :
    ∃ name, installed.find? name = some package := by
  rw [importPackage] at h
  split at h
  · exact absurd (congrArg Prod.fst h) (by simp)
  · split at h
    · rename_i found marked hchain
      obtain rfl : found = package := Except.ok.inj (congrArg Prod.fst h)
      exact exists_find?_of_importChain (fun above ha => absurd ha (by simp)) hchain
    · exact absurd (congrArg Prod.fst h) (by simp)
    · exact absurd (congrArg Prod.fst h) (by simp)

/-- A module that only exists because another is below it gives nothing. -/
lemma member?_parent (name : String) : (Package.parent name).member? clientsName = none := rfl

/-- **What an imported module gives has only clients whose ids are texts.** -/
lemma HasTextIds.clientsExport? (h : installed.HasTextIds) {name : String}
    (hfind : installed.find? name = some package) {given : Export}
    (hgiven : installed.clientsExport? imported package = some given) : given.HasTextIds := by
  rw [Installed.clientsExport?, Option.map_eq_some_iff] at hgiven
  obtain ⟨value, hvalue, rfl⟩ := hgiven
  rw [resolve?] at hvalue
  split at hvalue
  -- a module below it of that name is no collection
  · obtain ⟨found, -, rfl⟩ := Option.map_eq_some_iff.1 hvalue
    trivial
  · obtain ⟨member, hmember, rfl⟩ := Option.map_eq_some_iff.1 hvalue
    rcases Option.or_eq_some_iff.1 hfind with hfound | ⟨-, hparent⟩
    · exact h.exports package (List.mem_of_find?_eq_some hfound) member hmember
    · split at hparent
      · obtain rfl := Option.some.inj hparent
        rw [member?_parent] at hmember
        contradiction
      · contradiction

end Installed

/-! ## Loading -/

/-- **A loading that comes to its end**, with a registry whose ids are texts. -/
structure Loaded.Keeps {α : Type} (loaded : Loaded α) : Prop where
  /-- the ids are texts -/
  hasTextIds : loaded.holdings.registry.HasTextIds
  /-- it comes to its end -/
  exists_outcome : ∃ outcome, loaded.outcome = .ok outcome

namespace Loaded.Keeps

variable {α β : Type}

lemma done {holdings : Holdings} (h : holdings.registry.HasTextIds) (outcome : α) :
    (Loaded.done holdings outcome).Keeps := ⟨h, outcome, rfl⟩

/-- **One loading after the other** keeps to it when both do. -/
lemma andThen {loaded : Loaded α} (h : loaded.Keeps) {next : Holdings → α → Loaded β}
    (hnext : ∀ holdings outcome, holdings.registry.HasTextIds → (next holdings outcome).Keeps) :
    (loaded.andThen next).Keeps := by
  obtain ⟨outcome, houtcome⟩ := h.exists_outcome
  have hmore := hnext loaded.holdings outcome h.hasTextIds
  rw [Loaded.andThen, houtcome]
  exact ⟨hmore.hasTextIds, hmore.exists_outcome⟩

/-- So do any number of them. -/
lemma foldl {loaded : Loaded β} (h : loaded.Keeps) {items : List α}
    {step : α → Holdings → β → Loaded β}
    (hstep : ∀ item ∈ items, ∀ holdings outcome, holdings.registry.HasTextIds →
      (step item holdings outcome).Keeps) :
    (items.foldl (fun loaded item => loaded.andThen (step item)) loaded).Keeps := by
  induction items generalizing loaded with
  | nil => exact h
  | cons item rest ih =>
      exact ih (h.andThen (hstep item List.mem_cons_self))
        fun next hn => hstep next (List.mem_cons_of_mem _ hn)

end Loaded.Keeps

variable {installed : Installed} {holdings : Holdings}

/-- The clients that can be registered are among those that are given. -/
lemma isText_of_mem_registrableClients {items : List ExportItem} {client : Client}
    (hclients : ∀ item ∈ items, ∃ client, item = .client client ∧ client.id.IsText)
    (hc : client ∈ (registrableClients items).1) : client.id.IsText := by
  induction items with
  | nil => exact absurd hc List.not_mem_nil
  | cons item rest ih =>
      obtain ⟨first, rfl, hfirst⟩ := hclients item List.mem_cons_self
      rcases List.mem_cons.1 hc with rfl | hrest
      · exact hfirst
      · exact ih (fun next hn => hclients next (List.mem_cons_of_mem _ hn)) hrest

/-- Registering what a module gives. -/
lemma keeps_registerExport (h : holdings.registry.HasTextIds) (source : String) {given : Export}
    (hgiven : given.HasTextIds) : (registerExport holdings source given).Keeps := by
  cases given with
  | nothing => exact ⟨h, false, rfl⟩
  | single => exact ⟨h, false, rfl⟩
  | collection items =>
      have hclients : ∀ item ∈ items.filter ExportItem.isClient,
          ∃ client, item = .client client ∧ client.id.IsText := by
        intro item hitem
        obtain ⟨hmem, hclient⟩ := List.mem_filter.1 hitem
        rcases hgiven item hmem with rfl | hitem
        · contradiction
        · exact hitem
      have hall : (registrableClients (items.filter ExportItem.isClient)).2 = true := by
        rw [registrableClients_snd]
        intro hbad
        obtain ⟨client, hc, -⟩ := hclients _ hbad
        contradiction
      refine ⟨?_, true, if_pos hall⟩
      refine h.registerAll fun client hc => ?_
      exact isText_of_mem_registrableClients hclients hc

/-- **Loading one package** comes to its end, whether or not the package can be imported. -/
lemma keeps_loadPackage (hinstalled : installed.HasTextIds) (h : holdings.registry.HasTextIds)
    (package : String) : (loadPackage installed holdings package).Keeps := by
  rw [loadPackage]
  dsimp only
  split
  · exact ⟨h, false, rfl⟩
  · rename_i found imported himport
    obtain ⟨name, hfind⟩ := Installed.exists_find?_of_importPackage himport
    have hgiven : ((installed.clientsExport? imported found).getD .nothing).HasTextIds := by
      cases hexport : installed.clientsExport? imported found with
      | none => trivial
      | some given => exact hinstalled.clientsExport? hfind hexport
    refine Loaded.Keeps.andThen (keeps_registerExport ?_ _ hgiven) ?_
    · exact h
    · intro holdings isLoaded hh
      exact ⟨hh, isLoaded, rfl⟩

/-- Loading packages, each once. -/
lemma keeps_loadDistinct (hinstalled : installed.HasTextIds) {start : Loaded Outcomes}
    (h : start.Keeps) (packages : List String) : (loadDistinct installed start packages).Keeps := by
  refine h.foldl fun package _ holdings outcomes hh => ?_
  split
  · exact .done hh outcomes
  · exact (keeps_loadPackage hinstalled hh package).andThen fun holdings isLoaded hh =>
      .done hh (outcomes ++ [(package, isLoaded)])

/-- Loading the entry points of the library's group. -/
lemma keeps_loadEntryPoints (hinstalled : installed.HasTextIds)
    (h : holdings.registry.HasTextIds) :
    (loadEntryPoints installed holdings entryPointGroup).Keeps := by
  refine Loaded.Keeps.foldl ⟨h, [], rfl⟩ fun entryPoint hmem holdings outcomes hh => ?_
  refine Loaded.Keeps.andThen ?_ fun holdings isLoaded hh => .done hh _
  rw [loadEntryPoint]
  split
  · exact ⟨hh, false, rfl⟩
  · rename_i given imported hload
    refine keeps_registerExport ?_ _ (hinstalled.entryPoints entryPoint hmem _ _ _ hload)
    exact hh

/-- **Loading packages comes to its end**, and leaves a registry whose ids are texts. -/
theorem keeps_loadPackages {around : Surroundings} (hinstalled : around.installed.HasTextIds)
    (h : holdings.registry.HasTextIds) (options : LoadOptions) (packages : List String) :
    (loadPackages around options holdings packages).Keeps := by
  have hdistinct := keeps_loadDistinct hinstalled (.done h [])
    (packages ++ if options.fromEnvironment then around.env.packages else [])
  rw [loadPackages]
  split
  · exact hdistinct.andThen fun holdings outcomes hh =>
      (keeps_loadEntryPoints hinstalled hh).andThen fun holdings points hh => .done hh _
  · exact hdistinct

end ContainerClients
