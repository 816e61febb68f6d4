import ContainerClients.Package.Loading
import ContainerClients.Proofs.Imports

/-!
# What an entry point depends on

The way from a module to what an entry point means can lead to a module below it, and that is there
only if it was imported.  The table of the names in a module grows with such modules too.  Nothing
else on the way depends on what was imported before.

* `Export.clients?` — the clients in what a source gives, if it gives a collection.
* `Export.Alike`, `Value.Alike` — the same but for how many things that are no clients there are.
* `Kinds.attribute?_alike` — what leads on from values that are alike is alike.
* `IsHiddenBy` — a name under which one of some modules can be found below another.
* **`Installed.attribute?_of_grows`** — with extra modules, what leads on is alike, unless one of
  them has the name.
* **`EntryPoint.load_of_grows`** — an entry point that gives clients gives the same without the
  extra modules, unless one of them has a name on its way.
-/

namespace ContainerClients

/-! ## What is given -/

/-- The client that an item is, if it is one that can be registered. -/
def ExportItem.client? : ExportItem → Option Client
  | .client found => some found
  | _ => none

namespace Export

/-- **The clients in what a source gives**, if it gives a collection. -/
def clients? : Export → Option (List Client)
  | .collection items => some (items.filterMap ExportItem.client?)
  | _ => none

/-- **All clients in what a source gives can be registered.** -/
def IsRegistrable : Export → Prop
  | .collection items => ExportItem.unregistrable ∉ items
  | _ => True

instance (given : Export) : Decidable given.IsRegistrable :=
  match given with
  | .nothing | .single => isTrue trivial
  | .collection items =>
    decidable_of_iff (registrableClients items).2 (registrableClients_snd items)

/-- The same is given, or two collections without clients are. -/
def Alike (a b : Export) : Prop :=
  a = b ∨ ∃ m n, a = .collection (foreignItems m) ∧ b = .collection (foreignItems n)

lemma clients?_foreignItems (n : ℕ) : (collection (foreignItems n)).clients? = some [] := by
  rw [clients?, foreignItems, List.filterMap_replicate_of_none (by rfl)]

lemma isRegistrable_foreignItems (n : ℕ) : (collection (foreignItems n)).IsRegistrable := by
  intro h
  have := List.eq_of_mem_replicate h
  contradiction

namespace Alike

variable {a b : Export}

lemma clients?_eq (h : a.Alike b) : a.clients? = b.clients? := by
  rcases h with rfl | ⟨m, n, rfl, rfl⟩
  · rfl
  · rw [clients?_foreignItems, clients?_foreignItems]

lemma isRegistrable (h : a.Alike b) (ha : a.IsRegistrable) : b.IsRegistrable := by
  rcases h with rfl | ⟨m, n, rfl, rfl⟩
  · exact ha
  · exact isRegistrable_foreignItems n

end Alike

end Export

/-! ## Values that are alike -/

/-- **Values that are the same but for how many things there are** in a collection without clients,
also when such a collection is what a method belongs to. -/
inductive Value.Alike : Value → Value → Prop
  | refl (value : Value) : Alike value value
  | collection (kind : String) (m n : ℕ) :
    Alike (.collection kind (foreignItems m)) (.collection kind (foreignItems n))
  | method (owner name : String) {a b : Value} :
    Alike a b → Alike (.method owner name a) (.method owner name b)
  | operation (owner name : String) {a b : Value} :
    Alike a b → Alike (.operation owner name a) (.operation owner name b)
  | boundFunction (function : Function) {a b : Value} :
    Alike a b → Alike (.boundFunction function a) (.boundFunction function b)

lemma Value.Alike.given {a b : Value} (h : a.Alike b) : a.given.Alike b.given := by
  cases h with
  | collection kind m n => exact .inr ⟨m, n, rfl, rfl⟩
  | _ => exact .inl rfl

namespace Kinds

variable {kinds : Kinds} {a b : Value}

lemma kindOf_alike (h : a.Alike b) : kinds.kindOf a = kinds.kindOf b := by
  cases h <;> rfl

lemma ownOf_alike (h : a.Alike b) : ownOf a = ownOf b := by
  cases h <;> rfl

/-- The kind that a method is named by depends on the kind of what it belongs to. -/
lemma holder_alike (h : a.Alike b) (owner name : String) :
    kinds.holder owner name a = kinds.holder owner name b := by
  cases h with
  | refl => rfl
  | _ =>
      unfold holder
      rcases kinds.ownSlot? owner name with _ | ⟨_, _, form, _, _⟩
      · rfl
      · cases form <;> rfl

lemma rel_refl (value : Option Value) : Option.Rel Value.Alike value value := by
  cases value with
  | none => exact .none
  | some value => exact .some (.refl value)

/-- **What stands in a place** of values that are alike is alike. -/
lemma place?_alike (h : a.Alike b) (place : String) :
    Option.Rel Value.Alike (kinds.place? a place) (kinds.place? b place) := by
  unfold place?
  rw [kindOf_alike h]
  by_cases hclass : place == "__class__"
  · rw [if_pos hclass, if_pos hclass]
    exact rel_refl _
  · rw [if_neg hclass, if_neg hclass]
    cases h with
    | refl => exact rel_refl _
    | collection => exact .none
    | method owner name h =>
        dsimp only
        rw [holder_alike h]
        split
        -- what the method belongs to is the one place where they differ
        case h_3 => exact .some h
        all_goals exact rel_refl _
    | operation owner name h =>
        dsimp only
        split_ifs
        · exact .some h
        · exact rel_refl _
    | boundFunction function h =>
        dsimp only
        split
        · exact rel_refl _
        · exact .some h
        · exact rel_refl _

/-- So is what a slot comes to on them, -/
lemma onThing?_alike (h : a.Alike b) (owner : String) (slot : Slot) :
    Option.Rel Value.Alike (kinds.onThing? a owner slot) (kinds.onThing? b owner slot) := by
  rw [onThing?, onThing?]
  split
  · exact .some (.operation _ _ h)
  · exact .some (.method _ _ h)
  · exact place?_alike h _
  · exact place?_alike h _
  · exact .some (.boundFunction _ h)
  · exact .some (.refl _)
  · rw [kindOf_alike h]
    exact .some (.refl _)

/-- and what leads on from them as things, -/
lemma ofThing?_alike (h : a.Alike b) (name : String) :
    Option.Rel Value.Alike (kinds.ofThing? a name) (kinds.ofThing? b name) := by
  rw [ofThing?, ofThing?, kindOf_alike h, ownOf_alike h]
  split
  · split_ifs
    · exact onThing?_alike h _ _
    · exact .some (.refl _)
  · exact onThing?_alike h _ _
  · exact rel_refl _

/-- **and all that leads on from them.** -/
lemma attribute?_alike (h : a.Alike b) (name : String) :
    Option.Rel Value.Alike (kinds.attribute? a name) (kinds.attribute? b name) := by
  cases h with
  | refl => exact rel_refl _
  | collection kind m n => exact ofThing?_alike (.collection kind m n) name
  | method owner method h => exact ofThing?_alike (.method owner method h) name
  | operation owner operation h => exact ofThing?_alike (.operation owner operation h) name
  | boundFunction function h =>
      rw [attribute?, attribute?]
      split
      · exact onThing?_alike (.boundFunction function h) _ _
      · exact rel_refl _

end Kinds

/-! ## Names on the way -/

/-- **A name under which one of some modules is found** below another. -/
def IsHiddenBy (name : String) (modules : List String) : Prop :=
  ∃ above : String, above ++ "." ++ name ∈ modules

/-- That is seen at the end of their names. -/
lemma isHiddenBy_iff {name : String} {modules : List String} :
    IsHiddenBy name modules ↔ ∃ module ∈ modules, '.' :: name.toList <:+ module.toList := by
  constructor
  · rintro ⟨above, hmem⟩
    exact ⟨_, hmem, above.toList, by simp [String.toList_append]⟩
  · rintro ⟨module, hmem, front, hfront⟩
    refine ⟨String.ofList front, ?_⟩
    have hmodule : String.ofList front ++ "." ++ name = module := by
      rw [← String.toList_inj, ← hfront]
      simp [String.toList_append]
    rwa [hmodule]

instance (name : String) (modules : List String) : Decidable (IsHiddenBy name modules) :=
  decidable_of_iff _ isHiddenBy_iff.symm

namespace Installed

variable {installed : Installed} {imported less more : Imported} {extra : List String}
  {a b : Value} {name : String} {path : List String}

/-- What a name in a module stands for is the same with extra modules, unless one of them has the
name. -/
lemma resolve?_of_grows (h : Grows installed extra less more) (hname : ¬ IsHiddenBy name extra)
    (package : Package) :
    installed.resolve? more package name = installed.resolve? less package name := by
  rw [resolve?, resolve?, h.contains_eq fun hmem => hname ⟨package.name, hmem⟩]

/-- **What leads on from a value** is alike with extra modules, unless one of them has the name. -/
theorem attribute?_of_grows (h : Grows installed extra less more)
    (hname : ¬ IsHiddenBy name extra) (halike : a.Alike b) :
    Option.Rel Value.Alike (installed.attribute? more a name)
      (installed.attribute? less b name) := by
  cases halike with
  | refl =>
      cases a with
      | package package =>
          rw [attribute?, attribute?]
          unfold ofPackage?
          dsimp only
          split
          · exact Kinds.rel_refl _
          · exact .some (.collection "dict" _ _)
          · exact Kinds.rel_refl _
          · simp only [resolve?_of_grows h hname]
            exact Kinds.rel_refl _
      | _ => exact Kinds.rel_refl _
  | collection kind m n => exact Kinds.attribute?_alike (.collection kind m n) name
  | method owner method h => exact Kinds.attribute?_alike (.method owner method h) name
  | operation owner operation h => exact Kinds.attribute?_alike (.operation owner operation h) name
  | boundFunction function h => exact Kinds.attribute?_alike (.boundFunction function h) name

/-- **The way to what an entry point means** is the same without extra modules, unless one of them
has a name on the way. -/
lemma foldlM_follow_of_grows (h : Grows installed extra less more)
    (hpath : ∀ name ∈ path, ¬ IsHiddenBy name extra) (halike : a.Alike b) {c : Value}
    (hfollow : path.foldlM (installed.follow more) a = .ok c) :
    ∃ d, path.foldlM (installed.follow less) b = .ok d ∧ c.Alike d := by
  induction path generalizing a b with
  | nil =>
      obtain rfl := Except.ok.inj hfollow
      exact ⟨b, rfl, halike⟩
  | cons name rest ih =>
      have hstep := attribute?_of_grows h (hpath name List.mem_cons_self) halike
      rw [List.foldlM_cons, follow] at hfollow
      rw [List.foldlM_cons, follow]
      cases hmore : installed.attribute? more a name with
      | none =>
          rw [hmore] at hfollow
          contradiction
      | some next =>
          rw [hmore] at hfollow hstep
          cases hless : installed.attribute? less b name with
          | none =>
              rw [hless] at hstep
              cases hstep
          | some next' =>
              rw [hless] at hstep
              cases hstep with
              | some hnext =>
                  exact ih (fun other ho => hpath other (List.mem_cons_of_mem _ ho)) hnext hfollow

/-- **What a module gives as its clients** is the same without extra modules, unless one of them
stands in its place: and then no collection is given. -/
lemma clientsExport?_of_grows (h : Grows installed extra less more) (package : Package) :
    installed.clientsExport? more package = installed.clientsExport? less package
      ∨ ∀ given ∈ installed.clientsExport? more package, given = .single := by
  rw [clientsExport?, clientsExport?, resolve?, resolve?]
  by_cases hmore : more.contains (package.name ++ "." ++ clientsName)
  · right
    intro given hgiven
    rw [if_pos hmore, Option.map_map, Option.mem_def, Option.map_eq_some_iff] at hgiven
    obtain ⟨found, -, rfl⟩ := hgiven
    rfl
  · left
    have hless : ¬ less.contains (package.name ++ "." ++ clientsName) := fun hless =>
      hmore (List.contains_iff_mem.2 (h.mem_more _ (List.contains_iff_mem.1 hless)))
    rw [if_neg hmore, if_neg hless]

/-- **A module that gives clients** gives the same without extra modules. -/
lemma clientsExport?_of_clients (h : Grows installed extra less more) {package : Package}
    {missing : Export} (hmissing : missing.clients? = none)
    (hclients : ((installed.clientsExport? more package).getD missing).clients?.isSome) :
    installed.clientsExport? more package = installed.clientsExport? less package := by
  rcases clientsExport?_of_grows h package with heq | hsingle
  · exact heq
  · cases hgiven : installed.clientsExport? more package with
    | none =>
        rw [hgiven, Option.getD_none, hmissing] at hclients
        contradiction
    | some given =>
        rw [hgiven, hsingle given hgiven] at hclients
        contradiction

/-- What values give, when clients are given with the extra modules. -/
lemma exportOf_of_grows (h : Grows installed extra less more) (halike : a.Alike b)
    (hclients : (installed.exportOf more a).clients?.isSome) :
    (installed.exportOf more a).Alike (installed.exportOf less b) := by
  cases halike with
  | refl =>
      cases a with
      | package package =>
          left
          rw [exportOf] at hclients
          rw [exportOf, exportOf]
          cases hfind : installed.find? package with
          | none => rfl
          | some found =>
              rw [hfind, Option.bind_some] at hclients
              rw [Option.bind_some, Option.bind_some]
              rw [clientsExport?_of_clients h rfl hclients]
      | _ => exact .inl rfl
  | collection kind m n => exact (Value.Alike.collection kind m n).given
  | method owner method h => exact (Value.Alike.method owner method h).given
  | operation owner operation h => exact (Value.Alike.operation owner operation h).given
  | boundFunction function h => exact (Value.Alike.boundFunction function h).given

end Installed

/-! ## Entry points -/

namespace EntryPoint

variable {entryPoint : EntryPoint} {installed : Installed} {imported less more : Imported}
  {extra : List String}

/-- The names that lead on from the module. -/
def way (entryPoint : EntryPoint) : List String :=
  ((EntryPointTarget.read? entryPoint.value).map (·.path)).getD []

lemma snd_load (entryPoint : EntryPoint) (installed : Installed) (imported : Imported) :
    (entryPoint.load installed imported).2
      = ((EntryPointTarget.read? entryPoint.value).map fun target =>
          (installed.importPackage imported target.package).2).getD imported := by
  rw [load]
  cases EntryPointTarget.read? entryPoint.value with
  | none => rfl
  | some target =>
      dsimp only [Option.map_some, Option.getD_some]
      rcases installed.importPackage imported target.package with ⟨_ | _, _⟩ <;> rfl

/-- **What an entry point gives**, step by step. -/
lemma fst_load_eq_ok_iff {given : Export} :
    (entryPoint.load installed imported).1 = .ok given
      ↔ ∃ target package value, EntryPointTarget.read? entryPoint.value = some target
        ∧ (installed.importPackage imported target.package).1 = .ok package
        ∧ target.path.foldlM
            (installed.follow (installed.importPackage imported target.package).2)
            (.package package.name) = .ok value
        ∧ installed.exportOf (installed.importPackage imported target.package).2 value = given := by
  rw [load]
  cases EntryPointTarget.read? entryPoint.value with
  | none => simp
  | some target =>
      simp only [Option.some.injEq, exists_and_left, exists_eq_left']
      rcases installed.importPackage imported target.package with ⟨_ | package, after⟩
      · simp
      · simp only [map_eq_ok_iff, Except.ok.injEq, exists_eq_left']

/-- **An entry point only adds imported modules.** -/
lemma extends_load (entryPoint : EntryPoint) (installed : Installed) (imported : Imported) :
    Installed.Extends installed imported (entryPoint.load installed imported).2 := by
  rw [snd_load]
  cases EntryPointTarget.read? entryPoint.value with
  | none => exact .refl installed imported
  | some target => exact Installed.extends_importPackage installed imported target.package

lemma grows_load_of_grows (h : Installed.Grows installed extra less more) :
    Installed.Grows installed extra (entryPoint.load installed less).2
      (entryPoint.load installed more).2 := by
  rw [snd_load, snd_load]
  cases EntryPointTarget.read? entryPoint.value with
  | none => exact h
  | some target => exact (Installed.importPackage_of_grows h target.package).2

/-- **An entry point that gives clients gives the same without the extra modules**, unless one of
them has a name on its way. -/
theorem load_of_grows (h : Installed.Grows installed extra less more)
    (hway : ∀ name ∈ entryPoint.way, ¬ IsHiddenBy name extra) {given : Export}
    (hload : (entryPoint.load installed more).1 = .ok given) (hclients : given.clients?.isSome) :
    ∃ given', (entryPoint.load installed less).1 = .ok given' ∧ given.Alike given' := by
  obtain ⟨target, package, value, htarget, himport, hvalue, rfl⟩ := fst_load_eq_ok_iff.1 hload
  rw [way, htarget] at hway
  obtain ⟨houtcome, hgrows⟩ := Installed.importPackage_of_grows h target.package
  obtain ⟨value', hvalue', halike⟩ :=
    Installed.foldlM_follow_of_grows hgrows hway (.refl _) hvalue
  exact ⟨_, fst_load_eq_ok_iff.2
    ⟨target, package, value', htarget, houtcome ▸ himport, hvalue', rfl⟩,
    Installed.exportOf_of_grows hgrows halike hclients⟩

end EntryPoint

end ContainerClients
