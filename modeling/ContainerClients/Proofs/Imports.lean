import Mathlib.Data.List.Infix
import ContainerClients.Proofs.TextIds

/-!
# What importing depends on

Importing a module imports all modules above it first, and all of them stay imported.  So what was
imported before could matter to what is imported next.  It matters in one case only: a module below
another that has no modules below it is just there, or it is not.  No importing brings such a module
in, and so importing comes to the same whatever else was imported before.  The same holds of the
modules that bodies import, and of those that their bodies import.

* `exists_piece_of_isInfix` — two dotted prefixes in a row differ by one piece.
* `Installed.IsBelowPlain` — a module that importing does not bring in.
* `Installed.Extends`, `Installed.Grows` — two lists of imported modules, the second with some extra
  ones.
* `Installed.Leads` — the dotted prefixes that are left to import, below the one before.
* `Installed.extends_runBody`, `Installed.runBody_of_grows` — what running a body keeps to.
* **`Installed.extends_importPackage`** — importing only adds modules.
* **`Installed.importPackage_of_grows`** — with extra modules it comes to the same.
-/

namespace ContainerClients

open ContainerClients.Text

/-! ## Dotted prefixes -/

lemma intercalate_concat (separator : List Char) {pieces : List (List Char)} (h : pieces ≠ [])
    (last : List Char) :
    separator.intercalate (pieces ++ [last])
      = separator.intercalate pieces ++ (separator ++ last) := by
  rw [intercalate_append h (List.cons_ne_nil _ _), List.intercalate_singleton, List.append_assoc]

lemma getElem?_dottedPrefixes {name above : String} {k : ℕ}
    (h : (dottedPrefixes name)[k]? = some above) :
    k < (pieces '.' name.toList).length
      ∧ above.toList = ['.'].intercalate ((pieces '.' name.toList).take (k + 1)) := by
  rw [dottedPrefixes, List.getElem?_map, Option.map_eq_some_iff] at h
  obtain ⟨i, hi, rfl⟩ := h
  obtain ⟨hk, rfl⟩ := List.getElem?_eq_some_iff.1 hi
  rw [List.length_range] at hk
  rw [List.getElem_range, String.toList_ofList]
  exact ⟨hk, rfl⟩

/-- **Two dotted prefixes in a row differ by one piece**, which holds no dot. -/
lemma exists_piece_of_isInfix {above name whole : String}
    (h : [above, name] <:+: dottedPrefixes whole) :
    ∃ piece, '.' ∉ piece ∧ name.toList = above.toList ++ '.' :: piece := by
  obtain ⟨front, back, happend⟩ := h
  have habove : (dottedPrefixes whole)[front.length]? = some above := by
    rw [← happend]
    simp
  have hname : (dottedPrefixes whole)[front.length + 1]? = some name := by
    rw [← happend]
    simp
  obtain ⟨-, habove⟩ := getElem?_dottedPrefixes habove
  obtain ⟨hlength, hname⟩ := getElem?_dottedPrefixes hname
  have htake : (pieces '.' whole.toList).take (front.length + 1) ≠ [] := by
    rw [ne_eq, List.take_eq_nil_iff]
    exact not_or_intro (Nat.succ_ne_zero _) (pieces_ne_nil '.' _)
  refine ⟨(pieces '.' whole.toList)[front.length + 1],
    not_mem_of_mem_pieces (List.getElem_mem hlength), ?_⟩
  rw [hname, List.take_succ_eq_append_getElem hlength, intercalate_concat _ htake, habove]
  rfl

/-- The first dotted prefix holds no dot. -/
lemma not_mem_of_dottedPrefixes_eq_cons {first whole : String} {rest : List String}
    (h : dottedPrefixes whole = first :: rest) : '.' ∉ first.toList := by
  have hfirst : (dottedPrefixes whole)[0]? = some first := by
    rw [h]
    rfl
  obtain ⟨hlength, hfirst⟩ := getElem?_dottedPrefixes hfirst
  have htake : (pieces '.' whole.toList).take 1 = [(pieces '.' whole.toList)[0]] := by
    rw [List.take_one, List.head?_eq_getElem?, List.getElem?_eq_getElem hlength]
    rfl
  rw [hfirst, htake, List.intercalate_singleton]
  exact not_mem_of_mem_pieces (List.getElem_mem hlength)

/-- What stands before the last dot, when there is none in the pieces behind it. -/
lemma eq_of_append_piece_eq {a b p q : List Char} (hp : '.' ∉ p) (hq : '.' ∉ q)
    (h : a ++ '.' :: p = b ++ '.' :: q) : a = b := by
  -- if one front were longer, it would end within the other piece, behind a dot
  rcases List.append_eq_append_iff.1 h with ⟨c, hb, hc⟩ | ⟨c, ha, hc⟩
  · cases c with
    | nil => rw [hb, List.append_nil]
    | cons d c =>
        rw [List.cons_append, List.cons.injEq] at hc
        exact absurd (hc.2 ▸ List.mem_append_right c List.mem_cons_self) hp
  · cases c with
    | nil => rw [ha, List.append_nil]
    | cons d c =>
        rw [List.cons_append, List.cons.injEq] at hc
        exact absurd (hc.2 ▸ List.mem_append_right c List.mem_cons_self) hq

/-! ## More modules and fewer -/

lemma Imported.mem_mark {imported : Imported} {name other : String} :
    name ∈ imported.mark other ↔ name ∈ imported ∨ name = other := by
  rw [mark]
  split
  · rename_i h
    refine ⟨.inl, fun hor => hor.elim id ?_⟩
    rintro rfl
    simpa using h
  · rw [List.mem_append, List.mem_singleton]

/-- **What was imported since**: the modules that are imported and were not before. -/
def Imported.since (imported before : Imported) : List String :=
  imported.filter (!before.contains ·)

lemma Imported.mem_since {imported before : Imported} {name : String} :
    name ∈ imported.since before ↔ name ∈ imported ∧ name ∉ before := by
  simp [since]

namespace Installed

variable {installed : Installed} {imported less more : Imported} {extra running : List String}
  {run : Imported → Package → Imported} {parent : Option Package} {name whole : String}
  {names : List String} {package : Package}

/-- **A module below one that has none below.** -/
def IsBelowPlain (installed : Installed) (name : String) : Prop :=
  ∃ above package whole, installed.find? above = some package ∧ package.places = none
    ∧ [above, name] <:+: dottedPrefixes whole

/-- **Imported modules, and the same with more.** -/
structure Extends (installed : Installed) (less more : Imported) : Prop where
  /-- none is left out -/
  mem_more : ∀ name ∈ less, name ∈ more
  /-- nothing is more that importing does not bring in -/
  mem_less : ∀ name ∈ more, installed.IsBelowPlain name → name ∈ less

namespace Extends

lemma refl (installed : Installed) (imported : Imported) : Extends installed imported imported where
  mem_more _ hn := hn
  mem_less _ hn _ := hn

lemma trans {most : Imported} (h : Extends installed less more) (h' : Extends installed more most) :
    Extends installed less most where
  mem_more name hn := h'.mem_more name (h.mem_more name hn)
  mem_less name hn hplain := h.mem_less name (h'.mem_less name hn hplain) hplain

/-- One more module is imported. -/
lemma mark (h : Extends installed less more) (hname : installed.IsBelowPlain name → name ∈ less) :
    Extends installed less (more.mark name) where
  mem_more other ho := Imported.mem_mark.2 (.inl (h.mem_more other ho))
  mem_less other ho hplain := by
    rcases Imported.mem_mark.1 ho with ho | rfl
    · exact h.mem_less other ho hplain
    · exact hname hplain

lemma contains_eq_of_isBelowPlain (h : Extends installed less more)
    (hname : installed.IsBelowPlain name) : more.contains name = less.contains name := by
  rw [Bool.eq_iff_iff, List.contains_iff_mem, List.contains_iff_mem]
  exact ⟨fun hn => h.mem_less name hn hname, h.mem_more name⟩

end Extends

/-- **Imported modules, and the same with some extra ones.** -/
structure Grows (installed : Installed) (extra : List String) (less more : Imported) : Prop
    extends Extends installed less more where
  /-- what is more is extra -/
  mem_extra : ∀ name ∈ more, name ∉ less → name ∈ extra

namespace Grows

lemma refl (extra : List String) (imported : Imported) :
    Grows installed extra imported imported where
  toExtends := .refl installed imported
  mem_extra _ hn hnot := absurd hn hnot

lemma trans {most : Imported} (h : Grows installed extra less more)
    (h' : Grows installed extra more most) : Grows installed extra less most where
  toExtends := h.toExtends.trans h'.toExtends
  mem_extra name hn hnot := by
    by_cases hmore : name ∈ more
    · exact h.mem_extra name hmore hnot
    · exact h'.mem_extra name hn hmore

lemma mono {others : List String} (h : Grows installed extra less more) (hsub : extra ⊆ others) :
    Grows installed others less more where
  toExtends := h.toExtends
  mem_extra name hn hnot := hsub (h.mem_extra name hn hnot)

/-- The same module is imported at both sides. -/
lemma mark (h : Grows installed extra less more) (name : String) :
    Grows installed extra (less.mark name) (more.mark name) where
  mem_more other ho := by
    rw [Imported.mem_mark] at ho ⊢
    exact ho.imp_left (h.mem_more other)
  mem_less other ho hplain := by
    rw [Imported.mem_mark] at ho ⊢
    exact ho.imp_left fun ho => h.mem_less other ho hplain
  mem_extra other ho hnot := by
    rw [Imported.mem_mark] at ho hnot
    rw [not_or] at hnot
    exact h.mem_extra other (ho.resolve_right hnot.2) hnot.1

/-- A module that is no extra one is imported at both sides or at none. -/
lemma contains_eq (h : Grows installed extra less more) (hname : name ∉ extra) :
    more.contains name = less.contains name := by
  rw [Bool.eq_iff_iff, List.contains_iff_mem, List.contains_iff_mem]
  exact ⟨fun hn => by_contra fun hnot => hname (h.mem_extra name hn hnot), h.mem_more name⟩

end Grows

/-- What is imported is extra as far as it was not imported before. -/
lemma Extends.grows (h : Extends installed less more) :
    Grows installed (more.since less) less more where
  toExtends := h
  mem_extra _ hn hnot := Imported.mem_since.2 ⟨hn, hnot⟩

/-! ## Importing -/

/-- **The dotted prefixes that are left to import**, and the module of the one before. -/
def Leads (installed : Installed) (whole : String) : Option Package → List String → Prop
  | none, names => names = dottedPrefixes whole
  | some package, names =>
    ∃ above, installed.find? above = some package ∧ above :: names <:+ dottedPrefixes whole

namespace Leads

lemma next (h : Leads installed whole parent (name :: names))
    (hname : installed.find? name = some package) :
    Leads installed whole (some package) names := by
  cases parent with
  | none => exact ⟨name, hname, h ▸ List.suffix_refl _⟩
  | some above =>
      obtain ⟨_, -, hsuffix⟩ := h
      exact ⟨name, hname, (List.suffix_cons _ _).trans hsuffix⟩

/-- Below a module that has none below, the next prefix is the name of such a module. -/
lemma isBelowPlain (h : Leads installed whole (some package) (name :: names))
    (hplain : package.places = none) : installed.IsBelowPlain name := by
  obtain ⟨above, hfind, hsuffix⟩ := h
  have hpair : [above, name] <+: above :: name :: names := ⟨names, rfl⟩
  exact ⟨above, package, whole, hfind, hplain, hpair.isInfix.trans hsuffix.isInfix⟩

/-- The name of such a module is reached in no other way. -/
lemma exists_of_isBelowPlain (h : Leads installed whole parent (name :: names))
    (hname : installed.IsBelowPlain name) :
    ∃ package, parent = some package ∧ package.places = none := by
  obtain ⟨above, package, whole', hfind, hplain, hinfix⟩ := hname
  obtain ⟨piece, hpiece, heq⟩ := exists_piece_of_isInfix hinfix
  cases parent with
  | none =>
      refine absurd ?_ (not_mem_of_dottedPrefixes_eq_cons h.symm)
      rw [heq]
      exact List.mem_append_right _ List.mem_cons_self
  | some found =>
      obtain ⟨above', hfind', hsuffix⟩ := h
      have hpair : [above', name] <+: above' :: name :: names := ⟨names, rfl⟩
      obtain ⟨piece', hpiece', heq'⟩ :=
        exists_piece_of_isInfix (hpair.isInfix.trans hsuffix.isInfix)
      obtain rfl : above = above' :=
        String.toList_inj.1 (eq_of_append_piece_eq hpiece hpiece' (heq.symm.trans heq'))
      exact ⟨found, rfl, Option.some.inj (hfind'.symm.trans hfind) ▸ hplain⟩

end Leads

/-- A module below one that has none below is located only if it was imported. -/
lemma contains_of_locate {above : Package} (hplain : above.places = none)
    (h : installed.locate imported (some above) name = .ok package) :
    imported.contains name = true := by
  obtain ⟨aboveName, places, described, content, annotated, imports⟩ := above
  obtain rfl : places = none := hplain
  rw [locate] at h
  split at h
  · assumption
  · contradiction

/-- **A module is located in the same way**, whatever else was imported. -/
lemma locate_of_extends (hleads : Leads installed whole parent (name :: names))
    (h : Extends installed less more) :
    installed.locate more parent name = installed.locate less parent name := by
  cases parent with
  | none => rfl
  | some above =>
      obtain ⟨aboveName, places, described, content, annotated, imports⟩ := above
      cases places with
      | none => rw [locate, locate, h.contains_eq_of_isBelowPlain (hleads.isBelowPlain rfl)]
      | some count => rfl

/-- A chain of imports only adds modules, if the bodies do. -/
lemma extends_importChain (hleads : Leads installed whole parent names)
    (hrun : ∀ imported package, Extends installed imported (run imported package)) :
    Extends installed imported (installed.importChain run running imported parent names).2 := by
  induction names generalizing parent imported with
  | nil => exact .refl installed imported
  | cons name rest ih =>
      rw [importChain]
      split
      · exact .refl installed imported
      · rename_i package hpackage
        have hnext := hleads.next (find?_of_locate hpackage)
        split
        · exact ih hnext
        · split
          · exact hrun imported package
          · refine ((hrun imported package).mark fun hplain => ?_).trans (ih hnext)
            -- such a module is found only where it was imported already
            obtain ⟨above, rfl, hnone⟩ := hleads.exists_of_isBelowPlain hplain
            exact List.contains_iff_mem.1 (contains_of_locate hnone hpackage)

/-- **A chain of imports comes to the same**, whatever else was imported, if the bodies do. -/
lemma importChain_of_grows (running : List String) (hleads : Leads installed whole parent names)
    (hrun : ∀ {less more} package, Grows installed extra less more →
      Grows installed extra (run less package) (run more package))
    (h : Grows installed extra less more) :
    (installed.importChain run running more parent names).1
        = (installed.importChain run running less parent names).1
      ∧ Grows installed extra (installed.importChain run running less parent names).2
          (installed.importChain run running more parent names).2 := by
  induction names generalizing parent less more with
  | nil => exact ⟨rfl, h⟩
  | cons name rest ih =>
      rw [importChain, importChain, locate_of_extends hleads h.toExtends]
      cases hpackage : installed.locate less parent name with
      | error fault => exact ⟨rfl, h⟩
      | ok package =>
        have hnext := hleads.next (find?_of_locate hpackage)
        dsimp only
        split
        · exact ih hnext h
        · split
          · exact ⟨rfl, hrun package h⟩
          · exact ih hnext ((hrun package h).mark name)

/-! ## Running bodies -/

/-- **Running a body only adds modules.**  The induction is on how many bodies are idle. -/
lemma extends_runBody (installed : Installed) (running : List String) (imported : Imported)
    (package : Package) :
    Extends installed imported (installed.runBody running imported package) := by
  induction hlength : (installed.idle running).length using Nat.strong_induction_on
    generalizing running imported package with
  | _ n ih =>
    rw [runBody]
    split
    · rename_i hidle
      have hrun imported other := ih _ (hlength ▸ length_idle_lt hidle) (package.name :: running)
        imported other rfl
      dsimp only
      generalize package.imports = names
      induction names generalizing imported with
      | nil => exact .refl installed imported
      | cons name rest ihNames =>
        have hleads : Leads installed name none _ := rfl
        exact (extends_importChain hleads hrun).trans (ihNames _)
    · exact .refl installed imported

/-- **Running a body comes to the same**, whatever else was imported. -/
lemma runBody_of_grows (running : List String) (package : Package)
    (h : Grows installed extra less more) :
    Grows installed extra (installed.runBody running less package)
      (installed.runBody running more package) := by
  induction hlength : (installed.idle running).length using Nat.strong_induction_on
    generalizing running less more package with
  | _ n ih =>
    rw [runBody, runBody]
    split
    · rename_i hidle
      have hrun {less more} (other : Package) (h : Grows installed extra less more) :=
        ih _ (hlength ▸ length_idle_lt hidle) (package.name :: running) other h rfl
      dsimp only
      generalize package.imports = names
      induction names generalizing less more with
      | nil => exact h
      | cons name rest ihNames =>
        exact ihNames
          (importChain_of_grows _ (show Leads installed name none _ from rfl) hrun h).2
    · exact h

/-! ## Importing by name -/

/-- What importing comes to, and the modules that are there then, by the chain of its prefixes. -/
lemma importPackage_eq (installed : Installed) (imported : Imported) (name : String) :
    installed.importPackage imported name
      = if name.toList.head? == some '.' then (.error (.relative name), imported)
        else
          let chain := installed.importChain (installed.runBody []) [] imported none
            (dottedPrefixes name)
          (chain.1.bind fun found => found.elim (.error (.missing name)) .ok, chain.2) := by
  rw [importPackage]
  split_ifs
  · rfl
  · dsimp only
    rcases installed.importChain (installed.runBody []) [] imported none (dottedPrefixes name)
      with ⟨_ | _ | _, _⟩ <;> rfl

/-- **Importing only adds modules**, none of them below one that has none below. -/
theorem extends_importPackage (installed : Installed) (imported : Imported) (name : String) :
    Extends installed imported (installed.importPackage imported name).2 := by
  rw [importPackage_eq]
  split_ifs
  · exact .refl installed imported
  · exact extends_importChain (show Leads installed name none _ from rfl)
      (extends_runBody installed [])

/-- **Importing comes to the same, whatever else was imported before.** -/
theorem importPackage_of_grows (h : Grows installed extra less more) (name : String) :
    (installed.importPackage more name).1 = (installed.importPackage less name).1
      ∧ Grows installed extra (installed.importPackage less name).2
          (installed.importPackage more name).2 := by
  have hchain := importChain_of_grows [] (show Leads installed name none _ from rfl)
    (fun package h => runBody_of_grows [] package h) h
  rw [importPackage_eq, importPackage_eq]
  split_ifs
  · exact ⟨rfl, h⟩
  · exact ⟨by dsimp only; rw [hchain.1], hchain.2⟩

end Installed

end ContainerClients
