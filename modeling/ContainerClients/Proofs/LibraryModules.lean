import ContainerClients.Package.Library
import ContainerClients.Proofs.EntryPoints
import ContainerClients.Proofs.GivenClients

/-!
# What the library's own modules lead to

An entry point names a module and goes on from value to value, along kinds, functions, methods and
other modules.  The tables of what is known of them are long, but no step of such a way makes a
client: a value that is reached has the clients that are in the value before it, or in a slot of a
kind, or in a member of a module.  So what can be given is there already among what is installed;
and among the modules of the library these are the clients of the bundled packages.

* `Value.clients` — the clients in a value and in its parts; `Kinds.clients`, `Package.clients`,
  `Installed.clients`, those in kinds, in a module and in all that is installed.
* `Kinds.clients_attribute?_subset`, `Installed.clients_attribute?_subset` — what one step leads to.
* **`Installed.mem_clients_of_gives`** — what is given is among the clients that are installed.
* **`Installed.clients_withLibrary`** — those are the bundled ones and the ones of added modules.
* **`Catalog.all_fill_withLibrary`** — so a filled registry has these and container clients only.
-/

namespace ContainerClients

/-! ## Clients in values -/

namespace Value

mutual

/-- **The clients in a value**: among its things, in its parts, or in what it belongs to. -/
def clients : Value → List Client
  | .collection _ items => items.filterMap ExportItem.client?
  | .thing _ own => clientsInParts own
  | .method _ _ receiver | .operation _ _ receiver | .boundFunction _ receiver => receiver.clients
  | _ => []

/-- The clients in the parts of a value. -/
def clientsInParts : List (String × Value) → List Client
  | [] => []
  | (_, part) :: rest => part.clients ++ clientsInParts rest

end

end Value

/-- The clients in a slot. -/
def Slot.clients (slot : Slot) : List Client :=
  match slot.form with
  | .held value => value.clients
  | _ => []

/-- **The clients in kinds.** -/
def Kinds.clients (kinds : Kinds) : List Client :=
  kinds.flatMap fun kind => kind.slots.flatMap Slot.clients

/-- **The clients in a module.** -/
def Package.clients (package : Package) : List Client :=
  match package.content with
  | .ok members => members.flatMap (·.value.clients)
  | .error _ => []

/-- **The clients in all that is installed.** -/
def Installed.clients (installed : Installed) : List Client :=
  installed.packages.flatMap Package.clients ++ installed.kinds.clients

namespace Value

@[simp] lemma clients_foreign (kind : String) (count : ℕ) : (foreign kind count).clients = [] := by
  rw [foreign, clients, foreignItems, List.filterMap_replicate_of_none (by rfl)]

@[simp] lemma clients_ofLength (length : Option ℕ) : (ofLength length).clients = [] := by
  cases length <;> rfl

/-- What is found under a name has clients of the parts. -/
lemma clients_subset_of_lookup {parts : List (String × Value)} {name : String} {value : Value}
    (h : parts.lookup name = some value) : value.clients ⊆ clientsInParts parts := by
  induction parts with
  | nil => contradiction
  | cons part rest ih =>
      rw [List.lookup_cons] at h
      rw [clientsInParts]
      split at h
      · obtain rfl := Option.some.inj h
        exact List.subset_append_left _ _
      · exact List.Subset.trans (ih h) (List.subset_append_right _ _)

end Value

/-! ## One step further -/

namespace Kinds

variable {kinds : Kinds} {value next : Value} {kind place name owner : String} {slot : Slot}

/-- A slot of a kind that is known has clients of the kinds. -/
lemma clients_subset_of_mem {known : Kind} (hkind : known ∈ kinds) (hslot : slot ∈ known.slots) :
    slot.clients ⊆ kinds.clients := fun _ hclient =>
  List.mem_flatMap.2 ⟨known, hkind, List.mem_flatMap.2 ⟨slot, hslot, hclient⟩⟩

/-- So has a slot that is found in one kind, -/
lemma clients_ownSlot?_subset (h : kinds.ownSlot? kind name = some (owner, slot)) :
    slot.clients ⊆ kinds.clients := by
  rw [ownSlot?, Option.map_eq_some_iff] at h
  obtain ⟨found, hfound, heq⟩ := h
  obtain rfl : found = slot := congrArg Prod.snd heq
  have hslot := List.mem_of_find?_eq_some hfound
  rw [Kinds.kind] at hslot
  cases hkind : kinds.find? (·.name == kind) with
  | none =>
      rw [hkind] at hslot
      contradiction
  | some known =>
      rw [hkind] at hslot
      exact clients_subset_of_mem (List.mem_of_find?_eq_some hkind) hslot

/-- and one that is found along a line. -/
lemma clients_slot?_subset (h : kinds.slot? kind name = some (owner, slot)) :
    slot.clients ⊆ kinds.clients := by
  obtain ⟨other, -, hother⟩ := List.exists_of_findSome?_eq_some h
  exact clients_ownSlot?_subset hother

/-- A slot makes no clients on a kind, -/
lemma clients_onKind_subset (slot : Slot) (owner kind : String) :
    (slot.onKind owner kind).clients ⊆ slot.clients := by
  rw [Slot.onKind, Slot.clients]
  cases slot.form <;> simp [Value.clients]

/-- There are none in the places of functions -/
lemma clients_placeOfFunction? {function : Function}
    (h : placeOfFunction? function place = some next) : next.clients = [] := by
  unfold placeOfFunction? at h
  split at h
  case h_5 =>
    obtain rfl := Option.some.inj h
    cases function.defaults <;> simp [Value.clients]
  case h_6 =>
    obtain rfl := Option.some.inj h
    cases function.keywords <;> simp [Value.clients]
  case h_13 => contradiction
  all_goals
    obtain rfl := Option.some.inj h
    simp [Value.clients, Value.clientsInParts]

/-- and of what kinds hold for their things, -/
lemma clients_descriptorPlace (h : place?.descriptorPlace kinds owner name place = some next) :
    next.clients = [] := by
  unfold place?.descriptorPlace at h
  dsimp only at h
  split at h
  case h_6 => contradiction
  all_goals
    obtain rfl := Option.some.inj h
    simp [Value.clients]

/-- and those in the places of a kind are in its slots. -/
lemma clients_placeOfKind?_subset {known : Kind}
    (h : kinds.placeOfKind? known place = some next) : next.clients ⊆ kinds.clients := by
  unfold placeOfKind? at h
  split at h
  case h_6 =>
    obtain rfl := Option.some.inj h
    cases known.bases.head? <;> simp [Value.clients]
  case h_9 =>
    obtain ⟨count, -, rfl⟩ := Option.map_eq_some_iff.1 h
    simp
  case h_10 =>
    split at h
    · obtain rfl := Option.some.inj h
      simp [Value.clients]
    · rename_i hslot
      obtain rfl := Option.some.inj h
      exact List.Subset.trans (clients_onKind_subset _ _ _) (clients_ownSlot?_subset hslot)
    · obtain rfl := Option.some.inj h
      simp [Value.clients]
  case h_11 => contradiction
  all_goals
    obtain rfl := Option.some.inj h
    simp [Value.clients, Value.number, Value.clientsInParts]

/-- **What stands in a place** has clients of the value or of the kinds. -/
lemma clients_place?_subset (h : kinds.place? value place = some next) :
    next.clients ⊆ value.clients ++ kinds.clients := by
  unfold place? at h
  split at h
  · obtain rfl := Option.some.inj h
    simp [Value.clients]
  · cases value with
    | kind name =>
        exact List.subset_append_of_subset_right _ (clients_placeOfKind?_subset h)
    | function function => simp [clients_placeOfFunction? h]
    | boundFunction function receiver =>
        dsimp only at h
        split at h
        · obtain rfl := Option.some.inj h
          simp [Value.clients]
        -- what the function belongs to stands in one of its places
        · obtain rfl := Option.some.inj h
          exact List.subset_append_left _ _
        · simp [clients_placeOfFunction? h]
    | property function =>
        dsimp only at h
        split at h
        all_goals
          obtain rfl := Option.some.inj h
          simp [Value.clients, Value.flag, Value.clientsInParts]
    | method owner name receiver =>
        dsimp only at h
        split at h
        case h_3 =>
          obtain rfl := Option.some.inj h
          exact List.subset_append_left _ _
        all_goals
          obtain rfl := Option.some.inj h
          simp [Value.clients]
    | operation owner name receiver =>
        dsimp only at h
        split_ifs at h
        · obtain rfl := Option.some.inj h
          exact List.subset_append_left _ _
        · simp [clients_descriptorPlace h]
    | descriptor form owner name => simp [clients_descriptorPlace h]
    | thing kind own =>
        dsimp only at h
        split at h
        · rename_i found hfound
          obtain rfl := Option.some.inj h
          exact List.subset_append_of_subset_left _ (Value.clients_subset_of_lookup hfound)
        · split_ifs at h
          all_goals
            obtain rfl := Option.some.inj h
            simp [Value.clients, Value.number, Value.clientsInParts]
    | _ => contradiction

/-- So has what a slot comes to, -/
lemma clients_onThing?_subset (hslot : slot.clients ⊆ kinds.clients)
    (h : kinds.onThing? value owner slot = some next) :
    next.clients ⊆ value.clients ++ kinds.clients := by
  unfold onThing? at h
  split at h
  case h_3 | h_4 => exact clients_place?_subset h
  case h_6 =>
    obtain rfl := Option.some.inj h
    simp [Value.clients, Value.clientsInParts]
  case h_7 =>
    obtain rfl := Option.some.inj h
    exact List.subset_append_of_subset_right _
      (List.Subset.trans (clients_onKind_subset _ _ _) hslot)
  all_goals
    obtain rfl := Option.some.inj h
    exact List.subset_append_left _ _

/-- what leads on from a thing, -/
lemma clients_ofThing?_subset (h : kinds.ofThing? value name = some next) :
    next.clients ⊆ value.clients ++ kinds.clients := by
  have hown {other : Value} (hother : (ownOf value).lookup name = some other) :
      other.clients ⊆ value.clients ++ kinds.clients := by
    refine List.subset_append_of_subset_left _ ?_
    cases value with
    | thing kind own => exact Value.clients_subset_of_lookup hother
    | _ => contradiction
  unfold ofThing? at h
  split at h
  · rename_i hslot hother
    split_ifs at h
    · exact clients_onThing?_subset (clients_slot?_subset hslot) h
    · obtain rfl := Option.some.inj h
      exact hown hother
  · rename_i hslot hnone
    exact clients_onThing?_subset (clients_slot?_subset hslot) h
  · exact hown h

/-- what leads on from a kind, -/
lemma clients_ofKind?_subset (h : kinds.ofKind? kind name = some next) :
    next.clients ⊆ kinds.clients := by
  have hnothing : (Value.kind kind).clients = [] := rfl
  unfold ofKind? at h
  split at h
  · rename_i hslot hown
    split_ifs at h
    · simpa [hnothing] using clients_onThing?_subset (clients_slot?_subset hslot) h
    · obtain rfl := Option.some.inj h
      exact List.Subset.trans (clients_onKind_subset _ _ _) (clients_slot?_subset hown)
  · rename_i hslot hnone
    simpa [hnothing] using clients_onThing?_subset (clients_slot?_subset hslot) h
  · rename_i hnone hown
    obtain rfl := Option.some.inj h
    exact List.Subset.trans (clients_onKind_subset _ _ _) (clients_slot?_subset hown)
  · contradiction

/-- **and all that leads on from a value.** -/
theorem clients_attribute?_subset (h : kinds.attribute? value name = some next) :
    next.clients ⊆ value.clients ++ kinds.clients := by
  unfold attribute? at h
  split at h
  · exact List.subset_append_of_subset_right _ (clients_ofKind?_subset h)
  · split at h
    · rename_i hslot
      exact clients_onThing?_subset (clients_slot?_subset hslot) h
    -- the function has no clients itself
    · exact List.Subset.trans (clients_ofThing?_subset h)
        (List.append_subset.2 ⟨List.nil_subset _, List.subset_append_right _ _⟩)
  · split at h
    case h_7 => exact List.subset_append_of_subset_right _ (clients_ofKind?_subset h)
    all_goals
      obtain rfl := Option.some.inj h
      simp [Value.clients, Value.flag, Value.clientsInParts]
  · exact clients_ofThing?_subset h

end Kinds

/-! ## The way of an entry point -/

/-- The members that every module has are no clients. -/
lemma Package.clients_of_mem_commonMembers {package : Package} {member : Member}
    (h : member ∈ package.commonMembers) : member.value.clients = [] := by
  have horigin : package.origin.clients = [] := by
    cases hplaces : package.places <;>
      simp [origin, hplaces, Value.clients, Value.clientsInParts, Value.flag]
  simp only [commonMembers, List.cons_append, List.nil_append, List.mem_cons,
    Option.mem_toList, Option.map_eq_some_iff] at h
  rcases h with rfl | rfl | rfl | rfl | rfl | ⟨count, -, rfl⟩
  case inr.inr.inl => exact horigin
  all_goals simp [Value.clients, Value.clientsInParts]

/-- What a name in a module stands for has clients of the module. -/
lemma Package.clients_member?_subset {package : Package} {name : String} {member : Member}
    (h : package.member? name = some member) : member.value.clients ⊆ package.clients := by
  rw [member?] at h
  rw [clients]
  cases hcontent : package.content with
  | error reason =>
      rw [hcontent] at h
      contradiction
  | ok members =>
      rw [hcontent] at h
      rcases List.mem_append.1 (List.mem_of_find?_eq_some h) with hown | hcommon
      · exact fun client hclient => List.mem_flatMap.2 ⟨member, hown, hclient⟩
      · simp [clients_of_mem_commonMembers hcommon]

namespace Installed

variable {installed : Installed} {imported : Imported} {value next : Value} {name : String}
  {package : Package} {path : List String} {client : Client}

/-- A module that is there has clients that are installed. -/
lemma clients_find?_subset (h : installed.find? name = some package) :
    package.clients ⊆ installed.clients := by
  rcases Option.or_eq_some_iff.1 h with hfound | ⟨-, hparent⟩
  · exact fun client hclient => List.mem_append_left _
      (List.mem_flatMap.2 ⟨package, List.mem_of_find?_eq_some hfound, hclient⟩)
  · split at hparent
    · obtain rfl := Option.some.inj hparent
      exact List.nil_subset _
    · contradiction

lemma clients_kinds_subset : installed.kinds.clients ⊆ installed.clients :=
  List.subset_append_right _ _

/-- What a name in it stands for has such clients. -/
lemma clients_resolve?_subset {other : String} (hfind : installed.find? other = some package)
    (h : installed.resolve? imported package name = some value) :
    value.clients ⊆ installed.clients := by
  rw [resolve?] at h
  split at h
  · obtain ⟨found, -, rfl⟩ := Option.map_eq_some_iff.1 h
    exact List.nil_subset _
  · obtain ⟨member, hmember, rfl⟩ := Option.map_eq_some_iff.1 h
    exact List.Subset.trans (Package.clients_member?_subset hmember) (clients_find?_subset hfind)

lemma clients_ofPackage?_subset {module : String}
    (h : installed.ofPackage? imported module name = some next) :
    next.clients ⊆ installed.clients := by
  unfold ofPackage? at h
  dsimp only at h
  split at h
  · exact List.Subset.trans (Kinds.clients_place?_subset h) clients_kinds_subset
  · obtain rfl := Option.some.inj h
    simp
  · obtain rfl := Option.some.inj h
    simp
  · rcases Option.or_eq_some_iff.1 h with hresolve | ⟨-, hthing⟩
    · obtain ⟨found, hfind, hfound⟩ := Option.bind_eq_some_iff.1 hresolve
      exact clients_resolve?_subset hfind hfound
    · exact List.Subset.trans (Kinds.clients_ofThing?_subset hthing) clients_kinds_subset

/-- **What leads on from a value** has clients of the value, or clients that are installed. -/
theorem clients_attribute?_subset (h : installed.attribute? imported value name = some next) :
    next.clients ⊆ value.clients ++ installed.clients := by
  unfold attribute? at h
  split at h
  · exact clients_ofPackage?_subset h
  · exact List.Subset.trans (Kinds.clients_attribute?_subset h)
      (List.append_subset.2 ⟨List.subset_append_left _ _,
        List.subset_append_of_subset_right _ clients_kinds_subset⟩)

/-- So has what a whole way leads to. -/
lemma clients_foldlM_follow_subset
    (h : path.foldlM (installed.follow imported) value = .ok next) :
    next.clients ⊆ value.clients ++ installed.clients := by
  induction path generalizing value with
  | nil =>
      obtain rfl := Except.ok.inj h
      exact List.subset_append_left _ _
  | cons name rest ih =>
      obtain ⟨step, hstep, hrest⟩ := bind_eq_ok_iff.1 h
      rw [follow] at hstep
      split at hstep
      · rename_i found hfound
        obtain rfl := Except.ok.inj hstep
        exact List.Subset.trans (ih hrest)
          (List.append_subset.2 ⟨clients_attribute?_subset hfound, List.subset_append_right _ _⟩)
      · contradiction

/-! ## What is given -/

/-- What a value gives as clients is in it. -/
lemma mem_clients_of_given (h : value.given.Gives client) : client ∈ value.clients := by
  cases value with
  | collection kind items => exact List.mem_filterMap.2 ⟨_, h, rfl⟩
  | text length =>
      have := List.eq_of_mem_replicate h
      contradiction
  | generic kind origin count =>
      have := List.eq_of_mem_replicate h
      contradiction
  | _ => exact h.elim

/-- What a module that is there gives is installed. -/
lemma mem_clients_of_clientsExport? {other : String} (hfind : installed.find? other = some package)
    {given : Export} (hgiven : installed.clientsExport? imported package = some given)
    (h : given.Gives client) : client ∈ installed.clients := by
  obtain ⟨value, hvalue, rfl⟩ := Option.map_eq_some_iff.1 hgiven
  exact clients_resolve?_subset hfind hvalue (mem_clients_of_given h)

/-- What something gives as clients is in it or installed. -/
lemma mem_clients_of_exportOf (h : (installed.exportOf imported value).Gives client) :
    client ∈ value.clients ++ installed.clients := by
  unfold exportOf at h
  split at h
  · rename_i name
    cases hgiven : (installed.find? name).bind (installed.clientsExport? imported) with
    | none =>
        rw [hgiven] at h
        exact h.elim
    | some given =>
        rw [hgiven] at h
        obtain ⟨found, hfind, hfound⟩ := Option.bind_eq_some_iff.1 hgiven
        exact mem_clients_of_clientsExport? hfind hfound h
  · exact List.mem_append_left _ (mem_clients_of_given h)

/-- **What is given is among the clients that are installed**, whatever way an entry point goes. -/
theorem mem_clients_of_gives (h : installed.Gives client) : client ∈ installed.clients := by
  cases h with
  | package package member hpackage hmember hgives =>
      exact List.mem_append_left _ (List.mem_flatMap.2 ⟨package, hpackage,
        Package.clients_member?_subset hmember (mem_clients_of_given hgives)⟩)
  | entryPoint entryPoint imported imported' given hmem hload hgives =>
      obtain ⟨target, package, value, -, -, hvalue, rfl⟩ :=
        EntryPoint.fst_load_eq_ok_iff.1 (congrArg Prod.fst hload)
      rcases List.mem_append.1 (mem_clients_of_exportOf hgives) with hmem | hmem
      · exact clients_foldlM_follow_subset hvalue hmem
      · exact hmem

end Installed

/-! ## The library's own modules -/

namespace Value

lemma clientsInParts_eq_flatMap (parts : List (String × Value)) :
    clientsInParts parts = parts.flatMap (·.2.clients) := by
  induction parts with
  | nil => rfl
  | cons part rest ih => rw [clientsInParts, ih, List.flatMap_cons]

end Value

/-- Things that come to no clients. -/
lemma flatMap_noClients {α : Type} (items : List α) :
    items.flatMap (fun _ => ([] : List Client)) = [] := List.flatMap_eq_nil_iff.2 fun _ _ => rfl

/-! ### Kinds -/

lemma Kinds.clients_append (kinds others : Kinds) :
    Kinds.clients (kinds ++ others) = kinds.clients ++ others.clients := List.flatMap_append

/-- The functions of a kind are no clients. -/
lemma clients_functionSlotsOf (kind : String) :
    (functionSlotsOf kind).flatMap Slot.clients = [] := by
  refine List.flatMap_eq_nil_iff.2 fun slot hslot => ?_
  obtain ⟨function, -, hsome⟩ := List.mem_filterMap.1 hslot
  split at hsome
  · obtain rfl := Option.some.inj hsome
    rfl
  · contradiction

lemma clients_outsideKinds : outsideKinds.clients = [] := by
  have hwritten (home : String) (described : ℕ) :
      (writtenSlots home described).flatMap Slot.clients = [] := by
    simp [writtenSlots, Slot.holding, Slot.clients, Value.clients]
  have hplaces : ownPlaces.flatMap Slot.clients = [] := rfl
  simp [outsideKinds, outsideKind, Kinds.clients, hwritten, hplaces, clients_functionSlotsOf,
    Slot.holding, Slot.clients, Value.clients, Value.clientsInParts]

/-- **No kind holds clients.** -/
lemma clients_libraryKinds : libraryKinds.clients = [] := by
  have hbasic : basicKinds.clients = [] := by rfl
  have hfaults : faultKinds.clients = [] := by rfl
  have hrecords : recordKinds.clients = [] := by rfl
  have hfunctions : functionKinds.clients = [] := by rfl
  simp only [libraryKinds, Kinds.clients_append, hbasic, hfaults, hrecords, hfunctions,
    clients_outsideKinds, List.append_nil]

/-! ### Modules -/

/-- **The names in a standard module** stand for clients only if the other values do. -/
lemma StandardNames.clients_members (names : StandardNames) :
    names.members.flatMap (·.value.clients) = Value.clientsInParts names.others := by
  simp [members, List.flatMap_append, List.flatMap_map, flatMap_noClients,
    Value.clientsInParts_eq_flatMap, Value.clients, Value.number]

lemma clients_standardPackage (places : Option ℕ) (name : String) :
    (standardPackage places name).clients = [] := by
  have hothers : ∀ names ∈ standardNames, Value.clientsInParts names.others = [] := by
    have hall : (standardNames.all fun names => (Value.clientsInParts names.others).isEmpty) := by
      rfl
    simpa using hall
  rw [standardPackage]
  split
  · rename_i names hnames
    exact (names.clients_members).trans (hothers names (List.mem_of_find?_eq_some hnames))
  · rfl

/-- **No name in the library's modules stands for clients**: their texts, numbers, functions and
kinds are none. -/
lemma clients_libraryMember (module name : String) :
    (libraryMember module name).value.clients = [] := by
  have hconstants : constantValues.flatMap (·.2.clients) = [] := by rfl
  have hvalues : Value.clientsInParts libraryValues = [] := by
    simp only [Value.clientsInParts_eq_flatMap, libraryValues, List.flatMap_append,
      List.flatMap_map, Value.clients, flatMap_noClients, hconstants, List.append_nil]
  rw [libraryMember]
  split_ifs
  · rfl
  · cases hfound : libraryValues.lookup name with
    | none => rfl
    | some value =>
        exact List.subset_nil.1 (hvalues ▸ Value.clients_subset_of_lookup hfound)

lemma clients_fileMembers (name : String) :
    (fileMembers name).flatMap (·.value.clients) = [] := by
  simp [fileMembers, textValue, Value.clients]

/-- A bundled package has its own clients. -/
lemma clients_bundledPackage (name : String) (clients : List Client) :
    (bundledPackage name clients).clients = clients := by
  have hown : (Value.collection "tuple" (clients.map .client)).clients = clients := by
    rw [Value.clients, List.filterMap_map]
    exact List.filterMap_some
  simp [bundledPackage, Package.clients, hown, clients_libraryMember, clients_fileMembers]

lemma clients_coreModule (name : String) (described : ℕ) (isOuter : Bool) :
    (coreModule name described isOuter).clients = [] := by
  simp [coreModule, Package.clients, List.flatMap_append, List.flatMap_map, clients_libraryMember,
    clients_fileMembers]

/-- **The clients of the library's modules** are those of the bundled packages. -/
lemma clients_libraryPackages :
    libraryPackages.flatMap Package.clients = bundledClients.flatMap (·.2) := by
  have hcore : ∀ package ∈ coreModules, package.clients = [] := by
    simp [coreModules, clients_coreModule]
  have hsecond : ∀ package ∈ secondNames, package.clients = [] := by
    intro package hpackage
    obtain ⟨name, -, hname⟩ := List.mem_filterMap.1 hpackage
    obtain ⟨found, hfound, rfl⟩ := Option.map_eq_some_iff.1 hname
    exact hcore found (List.mem_of_find?_eq_some hfound)
  rw [libraryPackages, List.flatMap_append, List.flatMap_append, List.flatMap_eq_nil_iff.2 hcore,
    List.flatMap_eq_nil_iff.2 hsecond, List.append_nil, List.append_nil, bundledPackages,
    List.flatMap_map]
  simp only [clients_bundledPackage]

/-- **What is installed beside the library's own modules decides what clients there are**: those of
the bundled packages and those of the added modules.  Standard modules, functions and kinds lead to
no others. -/
theorem Installed.clients_withLibrary (packages : List Package)
    (entryPoints : Except String (List EntryPoint)) :
    (withLibrary packages entryPoints).clients
      = bundledClients.flatMap (·.2) ++ packages.flatMap Package.clients := by
  have hstandard : standardPackages.flatMap Package.clients = [] := by
    simp [standardPackages, List.flatMap_append, List.flatMap_map, clients_standardPackage]
  simp only [clients, withLibrary, List.flatMap_append, clients_libraryPackages, hstandard,
    clients_libraryKinds, List.append_nil]

section Added

variable {packages : List Package} {entryPoints : Except String (List EntryPoint)}

/-- So a client that is given is one of those. -/
lemma Installed.mem_of_gives_withLibrary {client : Client}
    (h : (withLibrary packages entryPoints).Gives client) :
    client ∈ bundledClients.flatMap (·.2) ∨ ∃ package ∈ packages, client ∈ package.clients := by
  rw [← List.mem_flatMap, ← List.mem_append, ← clients_withLibrary packages entryPoints]
  exact mem_clients_of_gives h

/-- **A filled registry has no other clients** than those, and container clients with the launcher
that the filling is told. -/
theorem Catalog.all_fill_withLibrary {around : Surroundings} {options : LoadOptions}
    {launcher : Container.Launcher} {config : CatalogConfig}
    (haround : around.installed = .withLibrary packages entryPoints) :
    (fill around options launcher config .initial).1.holdings.registry.All fun client =>
      client ∈ bundledClients.flatMap (·.2) ∨ (∃ package ∈ packages, client ∈ package.clients)
        ∨ ∃ (source : Client) (own : Derivation), own.launcher = launcher
          ∧ client = source.inContainer own := by
  refine all_fill (fun client hgives => ?_) (fun source own hlauncher => ?_) .empty
  · rw [haround] at hgives
    exact (Installed.mem_of_gives_withLibrary hgives).imp_right .inl
  · exact .inr (.inr ⟨source, own, hlauncher, rfl⟩)

end Added

end ContainerClients
