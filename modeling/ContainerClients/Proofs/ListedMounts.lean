import ContainerClients.Catalog.Config
import ContainerClients.Proofs.ParsedMount

/-!
# Mounts that are given and mounts of the environment

The mounts of a configuration are given as a list of texts, or listed in a variable of the
environment.  The variable is cut at the commas, its parts are stripped, and the blank ones are left
out.  All of this does nothing to a mount: blanks around the text are blanks around its roots, which
are stripped anyway, and a text that gives a mount has a colon in it, so it is not blank.

* `Text.Padded`, `Text.Lists` — a text that lists items between commas, with blanks wherever there
  may be some.
* `Text.listItems_of_lists` — what is read from such a text.
* `Mount.gives_stripped` — a text that gives a mount still gives it when it is stripped.
* `CatalogArguments.without` — arguments without one of them; `given_without`, `others_without`.
* `CatalogConfig.filledArguments_congr` — what is filled in, by the values that it depends on.
* **`ofEnvironment_of_lists`** — mounts that are given and mounts of the environment make the same
  configuration.
-/

namespace ContainerClients

open ContainerClients.Text

namespace Text

/-! ## Listed items -/

/-- **Parts that list items**: the items in their order, with any blanks around each, and any number
of blank parts among them. -/
inductive Padded : List (List Char) → List String → Prop where
  /-- nothing more -/
  | nil : Padded [] []
  /-- a blank part -/
  | blank {part : List Char} {parts : List (List Char)} {items : List String}
      (h : isBlankText part = true) (rest : Padded parts items) : Padded (part :: parts) items
  /-- an item -/
  | item {before after : List Char} {item : String} {parts : List (List Char)}
      {items : List String} (hbefore : isBlankText before = true)
      (hafter : isBlankText after = true) (rest : Padded parts items) :
      Padded ((before ++ item.toList ++ after) :: parts) (item :: items)

/-- **A text lists items**: its parts between commas do. -/
def Lists (text : String) (items : List String) : Prop :=
  ∃ parts, Padded parts items ∧ text.toList = [','].intercalate parts

lemma comma_not_mem_of_isBlankText {s : List Char} (h : isBlankText s = true) : ',' ∉ s := by
  intro hmem
  exact absurd (List.all_eq_true.1 h ',' hmem) (by decide)

namespace Padded

variable {parts : List (List Char)} {items : List String}

/-- There is no comma in a part unless there is one in an item. -/
lemma comma_not_mem (h : Padded parts items) (hitems : ∀ item ∈ items, ',' ∉ item.toList) :
    ∀ part ∈ parts, ',' ∉ part := by
  induction h with
  | nil => simp
  | blank hpart rest ih =>
      rw [List.forall_mem_cons]
      exact ⟨comma_not_mem_of_isBlankText hpart, ih hitems⟩
  | item hbefore hafter rest ih =>
      rw [List.forall_mem_cons] at hitems ⊢
      refine ⟨?_, ih hitems.2⟩
      simp only [List.mem_append, not_or]
      exact ⟨⟨comma_not_mem_of_isBlankText hbefore, hitems.1⟩, comma_not_mem_of_isBlankText hafter⟩

/-- **What is left of the parts is what is left of the items.** -/
lemma filter_map_strip (h : Padded parts items) :
    (parts.map strip).filter (!·.isEmpty)
      = (items.map fun item => strip item.toList).filter (!·.isEmpty) := by
  induction h with
  | nil => rfl
  | blank hpart rest ih => simpa [strip_eq_nil_iff.2 hpart] using ih
  | item hbefore hafter rest ih =>
      rw [List.map_cons, List.map_cons, strip_blanks_append hbefore hafter, List.filter_cons,
        List.filter_cons, ih]

end Padded

/-- **What is read from a text that lists items**, none of which is blank or has a comma. -/
theorem listItems_of_lists {text : String} {items : List String} (h : Lists text items)
    (hcommas : ∀ item ∈ items, ',' ∉ item.toList) (hblank : ∀ item ∈ items, stripped item ≠ "") :
    listItems text = items.map stripped := by
  obtain ⟨parts, hparts, htext⟩ := h
  have hpieces : ((pieces ',' text.toList).map strip).filter (!·.isEmpty)
      = (parts.map strip).filter (!·.isEmpty) := by
    rw [htext]
    -- no parts make the empty text, and that is cut into one empty piece
    by_cases hne : parts = []
    · subst hne
      rfl
    · rw [pieces_intercalate hne (hparts.comma_not_mem hcommas)]
  have hkept : (items.map fun item => strip item.toList).filter (!·.isEmpty)
      = items.map fun item => strip item.toList := by
    rw [List.filter_eq_self]
    intro characters hmem
    obtain ⟨item, hitem, rfl⟩ := List.mem_map.1 hmem
    simpa [stripped] using hblank item hitem
  rw [listItems, hpieces, hparts.filter_map_strip, hkept, List.map_map]
  rfl

end Text

/-! ## Mounts that are listed -/

/-- **A text that gives a mount is not blank, and still gives the mount when it is stripped.** -/
lemma Mount.gives_stripped {s : String} {mount : Mount} (h : Gives (.text s) mount) :
    stripped s ≠ "" ∧ Gives (.text (stripped s)) mount := by
  obtain ⟨host, container, hroots, hmount⟩ := h
  cases hroots with
  | text host hcolon =>
      have hstripped : stripped (String.ofList (host ++ ':' :: container))
          = String.ofList (stripStart host ++ ':' :: stripEnd container) := by
        rw [stripped, String.toList_ofList, strip_append_cons (by decide)]
      have hback : ':' ∉ stripEnd container := fun hmem =>
        hcolon ((dropEndWhile_isPrefix _ _).subset hmem)
      have hkept : normalRoot (stripStart host) = normalRoot host
          ∧ normalRoot (stripEnd container) = normalRoot container := by
        rw [normalRoot, normalRoot, normalRoot, normalRoot, strip_stripStart, strip_stripEnd]
        exact ⟨rfl, rfl⟩
      rw [hstripped]
      refine ⟨by simp, _, _, .text _ hback, ?_⟩
      rwa [hkept.1, hkept.2]

namespace Mapping

variable {items : List String} {mapping : Mapping}

/-- **Mounts that are listed are read like mounts that are given.** -/
theorem ofDatum_listItems {text : String} (h : Lists text items)
    (hcommas : ∀ item ∈ items, ',' ∉ item.toList)
    (hgiven : Mapping.ofDatum (.ofTexts items) = .ok mapping) :
    Mapping.ofDatum (.ofTexts (listItems text)) = .ok mapping := by
  rw [Datum.ofTexts, ofDatum_list_eq_ok_iff, List.forall₂_map_left_iff] at hgiven ⊢
  have hstripped : List.Forall₂
      (fun item mount => stripped item ≠ "" ∧ Mount.Gives (.text (stripped item)) mount)
      items mapping := hgiven.imp fun item mount => Mount.gives_stripped
  obtain ⟨hblank, hmounts⟩ := (List.forall₂_and_left _ _).1 hstripped
  rwa [listItems_of_lists h hcommas hblank, List.forall₂_map_left_iff]

end Mapping

/-! ## Configurations -/

namespace CatalogArguments

/-- What is given under a name, or nothing. -/
def given (arguments : CatalogArguments) (name : String) : Datum :=
  (Datum.field? name arguments.values).getD .null

/-- Arguments without one of them. -/
def without (arguments : CatalogArguments) (name : String) : CatalogArguments :=
  { arguments with values := arguments.values.filter (·.1 != name) }

/-- The arguments that the environment does not fill in. -/
def others (arguments : CatalogArguments) : List (String × Datum) :=
  arguments.values.filter fun entry => !CatalogConfig.filledNames.contains entry.1

/-- What is given under a name stays when another one is left out. -/
lemma given_without (arguments : CatalogArguments) (key name : String) :
    (arguments.without name).given key = if key = name then .null else arguments.given key := by
  have hfind : Datum.field? key (arguments.values.filter (·.1 != name))
      = if key = name then none else Datum.field? key arguments.values := by
    rw [Datum.field?, List.find?_filter]
    split_ifs with h
    · subst h
      simp
    · congr 2
      funext field
      by_cases hfield : field.1 = key
      · simp [hfield, h]
      · simp [hfield]
  rw [given, without, hfind]
  split_ifs <;> rfl

lemma others_without (arguments : CatalogArguments) {name : String}
    (h : name ∈ CatalogConfig.filledNames) :
    (arguments.without name).others = arguments.others := by
  rw [others, without, List.filter_filter]
  refine List.filter_congr fun entry _ => ?_
  by_cases hentry : entry.1 = name <;> simp [hentry, h]

end CatalogArguments

lemma Environment.strippedText_set_of_ne {env : Environment} {v w : Variable}
    {value : Option String} (h : v ≠ w) :
    (env.set w value).strippedText v = env.strippedText v := by
  simp only [strippedText, text, set_of_ne env value h]

namespace CatalogConfig

variable {env : Environment} {v w : Variable} {value : Option String}

/-- A value that is filled in from one variable does not depend on the others. -/
lemma valueFrom_set (h : v ≠ w) (given : Datum) :
    valueFrom (env.set w value) v given = valueFrom env v given := by
  simp only [valueFrom, Environment.strippedText_set_of_ne h]

lemma priorityFrom_set (h : Variable.priority ≠ w) (given : Datum) :
    priorityFrom (env.set w value) given = priorityFrom env given := by
  cases given with
  | null => simp only [priorityFrom, environmentPriority, Environment.strippedText_set_of_ne h]
  | _ => rfl

/-- Mounts that are given are those of the configuration, whatever the environment says. -/
lemma mountsFrom_of_given {given : Datum} {mapping : Mapping}
    (h : Mapping.ofDatum given = .ok mapping) (hne : mapping ≠ []) :
    mountsFrom env given = .ok mapping := by
  obtain ⟨mount, rest, rfl⟩ := List.exists_cons_of_ne_nil hne
  rw [mountsFrom, h]
  rfl

lemma mountsFrom_null : mountsFrom env .null = Mapping.ofDatum (.ofTexts (env.items .mounts)) := rfl

/-- **What is filled in depends on the four values that the environment can give**, and on the other
arguments. -/
theorem filledArguments_congr {env' : Environment} {arguments arguments' : CatalogArguments}
    (hmounts : mountsFrom env (arguments.given "path_mappings")
      = mountsFrom env' (arguments'.given "path_mappings"))
    (himage : valueFrom env .image (arguments.given "docker_image_id")
      = valueFrom env' .image (arguments'.given "docker_image_id"))
    (hname : valueFrom env .containerName (arguments.given "docker_container_name")
      = valueFrom env' .containerName (arguments'.given "docker_container_name"))
    (hpriority : priorityFrom env (arguments.given "priority")
      = priorityFrom env' (arguments'.given "priority"))
    (hothers : arguments.others = arguments'.others) (hspecs : arguments.specs = arguments'.specs) :
    filledArguments env arguments = filledArguments env' arguments' := by
  simp only [CatalogArguments.given, CatalogArguments.others]
    at hmounts himage hname hpriority hothers
  simp only [filledArguments, hmounts, himage, hname, hpriority, hothers, hspecs]

/-- **Mounts that are given and mounts that the environment lists make the same configuration**, or
fail in the same way, and report the same. -/
theorem ofEnvironment_of_lists {arguments : CatalogArguments} {items : List String} {text : String}
    {mapping : Mapping} (hne : items ≠ []) (hcommas : ∀ item ∈ items, ',' ∉ item.toList)
    (haccepted : Mapping.ofDatum (.ofTexts items) = .ok mapping)
    (hgiven : arguments.given "path_mappings" = .ofTexts items) (hlists : Lists text items) :
    ofEnvironment (env.set .mounts none) arguments
      = ofEnvironment (env.set .mounts (some text)) (arguments.without "path_mappings") := by
  have hmapping : mapping ≠ [] := by
    rintro rfl
    rw [Datum.ofTexts, Mapping.ofDatum_list_eq_ok_iff, List.forall₂_nil_right_iff] at haccepted
    exact hne (List.map_eq_nil_iff.1 haccepted)
  have hmounts : mountsFrom (env.set .mounts none) (.ofTexts items)
      = mountsFrom (env.set .mounts (some text)) .null := by
    rw [mountsFrom_of_given haccepted hmapping, mountsFrom_null, Environment.items,
      Environment.text, Environment.set_self]
    exact (Mapping.ofDatum_listItems hlists hcommas haccepted).symm
  have himage : Variable.image ≠ .mounts := by decide
  have hname : Variable.containerName ≠ .mounts := by decide
  have hpriority : Variable.priority ≠ .mounts := by decide
  -- the mounts agree by `hmounts`, everything else is read from what both sides have in common
  have hfilled : filledArguments (env.set .mounts none) arguments
      = filledArguments (env.set .mounts (some text)) (arguments.without "path_mappings") := by
    refine filledArguments_congr ?_ ?_ ?_ ?_ (arguments.others_without (by decide)).symm rfl
    · rw [hgiven, CatalogArguments.given_without, if_pos rfl, hmounts]
    · rw [CatalogArguments.given_without, if_neg (by decide), valueFrom_set himage,
        valueFrom_set himage]
    · rw [CatalogArguments.given_without, if_neg (by decide), valueFrom_set hname,
        valueFrom_set hname]
    · rw [CatalogArguments.given_without, if_neg (by decide), priorityFrom_set hpriority,
        priorityFrom_set hpriority]
  rw [ofEnvironment, ofEnvironment, hfilled]

/-- Two mounts, one with a drive letter and blanks around its colon. -/
def driveItems : List String := ["/a:/b", "C:/x : /y/"]

/-- They are listed with blanks around them, and with blank items before, between and behind. -/
lemma lists_driveItems : Lists "\n, /a:/b ,,\tC:/x : /y/, " driveItems := by
  refine ⟨[['\n'], [' '] ++ "/a:/b".toList ++ [' '], [],
    ['\t'] ++ "C:/x : /y/".toList ++ [], [' ']], ?_, by decide⟩
  have hnone : isBlankText [] = true := rfl
  have hspace : isBlankText [' '] = true := rfl
  have htab : isBlankText ['\t'] = true := rfl
  have hline : isBlankText ['\n'] = true := rfl
  exact .blank hline (.item hspace hspace (.blank hnone (.item htab hnone (.blank hspace .nil))))

/-- Arguments with these mounts, and with an image. -/
def driveArguments : CatalogArguments where
  values := [("path_mappings", .ofTexts driveItems), ("docker_image_id", .text "img")]
  specs := none

/-- Both ways come to a configuration with these mounts. -/
theorem ofEnvironment_of_lists_spaced :
    Mapping.ofDatum (.ofTexts driveItems) = .ok [⟨"/a", "/b"⟩, ⟨"C:/x", "/y"⟩]
    ∧ ofEnvironment (Environment.empty.set .mounts none) driveArguments
      = ofEnvironment (Environment.empty.set .mounts (some "\n, /a:/b ,,\tC:/x : /y/, "))
        (driveArguments.without "path_mappings") := by
  have haccepted : Mapping.ofDatum (.ofTexts driveItems)
      = .ok [⟨"/a", "/b"⟩, ⟨"C:/x", "/y"⟩] := rfl
  exact ⟨haccepted, ofEnvironment_of_lists (by decide) (by decide) haccepted rfl lists_driveItems⟩

end CatalogConfig

end ContainerClients
