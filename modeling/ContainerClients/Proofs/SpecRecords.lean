import Mathlib.Data.List.Nodup
import ContainerClients.Catalog.ServerSpec
import ContainerClients.Proofs.Success

/-!
# Specifications as records

A specification in a configuration file is a record, and five of its six fields may be spelled in
either of two ways.  A field that is there hides its other spelling, also if it holds nothing at
all, so being there and being given are two things.  What a record says is stated here by which
fields are among its own, and not by how they are looked up.

* `Datum.IsDictionary` — no two fields of a record have the same key.
* `ServerSpec.Says` — what a record says of a field, by its two keys.
* `ServerSpec.pick_eq_iff` — what is picked from a record is what it says.
* `ServerSpec.Describes` — a record says everything that a specification holds.
* `ServerSpec.AgreeOnShown` — two records differ in hidden fields only.
* **`ServerSpec.ofDatum_in_every_spelling`** — a specification is read from every record that
  describes it, and hidden fields do not count.
-/

namespace ContainerClients

/-! ## Fields of a record -/

namespace Datum

variable {key : String} {fields : List (String × Datum)} {d : Datum}

/-- **No two fields have the same key.** -/
def IsDictionary (fields : List (String × Datum)) : Prop := (fields.map Prod.fst).Nodup

/-- A field is missing when no value stands under its key. -/
lemma field?_eq_none_iff : field? key fields = none ↔ ∀ d, (key, d) ∉ fields := by
  rw [field?, Option.map_eq_none_iff, List.find?_eq_none]
  constructor
  · intro h d hmem
    exact h _ hmem (beq_self_eq_true key)
  · rintro h ⟨name, d⟩ hmem hname
    obtain rfl : name = key := by simpa using hname
    exact h d hmem

/-- **The value of a field is the one under its key.** -/
lemma field?_eq_some_iff (h : IsDictionary fields) :
    field? key fields = some d ↔ (key, d) ∈ fields := by
  rw [field?, Option.map_eq_some_iff]
  constructor
  · rintro ⟨⟨name, d⟩, hfound, rfl⟩
    obtain rfl : name = key := by simpa using List.find?_some hfound
    exact List.mem_of_find?_eq_some hfound
  · intro hmem
    -- some field with this key is found, and there is only one
    obtain ⟨found, hfound⟩ : ∃ found, fields.find? (·.1 == key) = some found :=
      Option.isSome_iff_exists.1 (List.find?_isSome.2 ⟨_, hmem, beq_self_eq_true key⟩)
    have hname : found.1 = key := by simpa using List.find?_some hfound
    obtain rfl := List.inj_on_of_nodup_map h (List.mem_of_find?_eq_some hfound) hmem hname
    exact ⟨_, hfound, rfl⟩

end Datum

namespace ServerSpec

open Datum (IsDictionary)

variable {fields others : List (String × Datum)} {keys : String × String} {d : Datum}
  {spec : ServerSpec}

/-! ## What a record says -/

/-- The fields that have two spellings. -/
def twins : List (String × String) :=
  [("server_id", "serverId"), ("docker_server_id", "dockerServerId"),
   ("server_command", "serverCommand"), ("docker_image_id", "dockerImageId"),
   ("docker_container_name", "dockerContainerName")]

/-- **What a record says of a field** that has two keys. -/
inductive Says (fields : List (String × Datum)) (keys : String × String) : Datum → Prop where
  /-- it stands under the first key, whatever stands under the other -/
  | first (d : Datum) : (keys.1, d) ∈ fields → Says fields keys d
  /-- it stands under the other key, and nothing under the first -/
  | second (d : Datum) : (∀ e, (keys.1, e) ∉ fields) → (keys.2, d) ∈ fields → Says fields keys d
  /-- it is left out, and so it is nothing -/
  | silent : (∀ e, (keys.1, e) ∉ fields) → (∀ e, (keys.2, e) ∉ fields) → Says fields keys .null

/-- **What is picked from a record is what it says.** -/
theorem pick_eq_iff (h : IsDictionary fields) :
    pick keys.1 keys.2 fields = d ↔ Says fields keys d := by
  rw [pick]
  constructor
  · rintro rfl
    cases hfirst : Datum.field? keys.1 fields with
    | some d => exact .first d ((Datum.field?_eq_some_iff h).1 hfirst)
    | none =>
      have hmissing := Datum.field?_eq_none_iff.1 hfirst
      cases hsecond : Datum.field? keys.2 fields with
      | some d => exact .second d hmissing ((Datum.field?_eq_some_iff h).1 hsecond)
      | none => exact .silent hmissing (Datum.field?_eq_none_iff.1 hsecond)
  · intro hspelled
    cases hspelled with
    | first d hmem => rw [(Datum.field?_eq_some_iff h).2 hmem]; rfl
    | second d hmissing hmem =>
      rw [Datum.field?_eq_none_iff.2 hmissing, (Datum.field?_eq_some_iff h).2 hmem]; rfl
    | silent hmissing hmissing' =>
      rw [Datum.field?_eq_none_iff.2 hmissing, Datum.field?_eq_none_iff.2 hmissing']; rfl

/-- A field with one spelling is picked by it alone. -/
lemma pick_self (key : String) : pick key key fields = (Datum.field? key fields).getD .null := by
  rw [pick, Option.or_self]

/-- The keys of all fields; the priority has one spelling. -/
def fieldKeys : List (String × String) := twins ++ [("priority", "priority")]

/-- **A record is read by what is picked from it**, field by field. -/
lemma ofRecord_congr
    (h : ∀ keys ∈ fieldKeys, pick keys.1 keys.2 fields = pick keys.1 keys.2 others) :
    ofRecord fields = ofRecord others := by
  have hpriority := h ("priority", "priority") (by simp [fieldKeys])
  simp only [pick_self] at hpriority
  simp only [fieldKeys, twins, List.cons_append, List.nil_append, List.forall_mem_cons] at h
  obtain ⟨hsource, hid, hcommand, himage, hname, -⟩ := h
  rw [ofRecord, ofRecord, hsource, hid, hcommand, himage, hname, hpriority]

/-! ## Records that describe a specification -/

/-- **A specification as it is meant to be written**: its ids and its command are not empty, and its
priority is a whole number, if it has one.  The image and the container name may be anything. -/
structure IsDeclared (spec : ServerSpec) : Prop where
  /-- the id of the client that it is made from is a text -/
  sourceId_text : ∃ s, s ≠ "" ∧ spec.sourceId = .text s
  /-- its own id is a text -/
  id_text : ∃ s, s ≠ "" ∧ spec.id = .text s
  /-- its command is a text or a list of texts -/
  command_text : (∃ s, s ≠ "" ∧ spec.command = .text s)
    ∨ ∃ words, words ≠ [] ∧ spec.command = .ofTexts words
  /-- its priority is a whole number -/
  priority_whole : spec.priority = .null ∨ ∃ i, spec.priority = .whole i

/-- **A record describes a specification**: it says everything that the specification holds, each
field in whichever spelling, in whatever order, and among whatever else. -/
structure Describes (fields : List (String × Datum)) (spec : ServerSpec) : Prop where
  /-- no key comes twice -/
  isDictionary : IsDictionary fields
  /-- the id of the client that it is made from -/
  sourceId : Says fields ("server_id", "serverId") spec.sourceId
  /-- its own id -/
  id : Says fields ("docker_server_id", "dockerServerId") spec.id
  /-- its command -/
  command : Says fields ("server_command", "serverCommand") spec.command
  /-- its image -/
  image : Says fields ("docker_image_id", "dockerImageId") spec.image
  /-- its container name -/
  containerName : Says fields ("docker_container_name", "dockerContainerName") spec.containerName
  /-- its priority -/
  priority : Says fields ("priority", "priority") spec.priority

lemma isTruthy_text {s : String} (h : s ≠ "") : (Datum.text s).isTruthy = true := by
  simpa [Datum.isTruthy] using h

lemma isTruthy_ofTexts {words : List String} (h : words ≠ []) :
    (Datum.ofTexts words).isTruthy = true := by
  simpa [Datum.ofTexts, Datum.isTruthy] using h

/-- A command that is declared is given, and is taken as it is. -/
lemma IsDeclared.commandOf_eq (h : spec.IsDeclared) :
    spec.command.isTruthy = true ∧ commandOf spec.command = .ok spec.command := by
  rcases h.command_text with ⟨s, hne, heq⟩ | ⟨words, hne, heq⟩
  · rw [heq]
    exact ⟨isTruthy_text hne, rfl⟩
  · rw [heq]
    exact ⟨isTruthy_ofTexts hne, rfl⟩

/-- A priority that is declared is taken as it is, 0 included. -/
lemma IsDeclared.priorityOf_eq (h : spec.IsDeclared) :
    priorityOf spec.priority = .ok spec.priority := by
  rcases h.priority_whole with heq | ⟨i, heq⟩ <;> rw [heq] <;> rfl

/-- **A specification is read from every record that describes it.** -/
theorem ofRecord_of_describes (hspec : spec.IsDeclared) (h : Describes fields spec) :
    ofRecord fields = .ok spec := by
  obtain ⟨source, hsource, hsourceId⟩ := hspec.sourceId_text
  obtain ⟨name, hname, hid⟩ := hspec.id_text
  obtain ⟨hgiven, hcommand⟩ := hspec.commandOf_eq
  have hpriority : (Datum.field? "priority" fields).getD .null = spec.priority :=
    (pick_self "priority").symm.trans ((pick_eq_iff h.isDictionary).2 h.priority)
  have hcomplete :
      (!spec.sourceId.isTruthy || !spec.id.isTruthy || !spec.command.isTruthy) = false := by
    rw [hsourceId, hid, hgiven, isTruthy_text hsource, isTruthy_text hname]
    rfl
  -- a text is shown as itself, so the ids stay what they are
  have hsourceShown : Datum.text spec.sourceId.shown = spec.sourceId := by rw [hsourceId]; rfl
  have hidShown : Datum.text spec.id.shown = spec.id := by rw [hid]; rfl
  rw [ofRecord, (pick_eq_iff h.isDictionary).2 h.sourceId, (pick_eq_iff h.isDictionary).2 h.id,
    (pick_eq_iff h.isDictionary).2 h.command, (pick_eq_iff h.isDictionary).2 h.image,
    (pick_eq_iff h.isDictionary).2 h.containerName, hpriority]
  dsimp only
  rw [if_neg (Bool.eq_false_iff.1 hcomplete), hcommand, hspec.priorityOf_eq, hsourceShown, hidShown]
  rfl

/-! ## Hidden fields -/

/-- **A record hides a field**: the other spelling of it is there. -/
def Hides (fields : List (String × Datum)) (key : String) : Prop :=
  ∃ keys ∈ twins, keys.2 = key ∧ ∃ d, (keys.1, d) ∈ fields

/-- **Two records agree on all that is not hidden.** -/
def AgreeOnShown (fields others : List (String × Datum)) : Prop :=
  ∀ key, ¬ Hides fields key → ∀ d, (key, d) ∈ fields ↔ (key, d) ∈ others

/-- A key that can be hidden is the second one of a single field, and the first one of none. -/
lemma twins_apart : ∀ keys ∈ fieldKeys, ∀ other ∈ twins,
    other.2 ≠ keys.1 ∧ (other.2 = keys.2 → other = keys) := by
  decide

/-- **What a record says does not depend on hidden fields.** -/
lemma Says.of_agreeOnShown (hspelled : Says fields keys d) (h : AgreeOnShown fields others)
    (hkeys : keys ∈ fieldKeys) : Says others keys d := by
  have hfirst : ∀ d, (keys.1, d) ∈ fields ↔ (keys.1, d) ∈ others := by
    refine h keys.1 ?_
    rintro ⟨other, hother, heq, -⟩
    exact (twins_apart keys hkeys other hother).1 heq
  -- the second spelling is hidden only where the first one is there
  have hsecond (hmissing : ∀ e, (keys.1, e) ∉ fields) :
      ∀ d, (keys.2, d) ∈ fields ↔ (keys.2, d) ∈ others := by
    refine h keys.2 ?_
    rintro ⟨other, hother, heq, e, hmem⟩
    obtain rfl := (twins_apart keys hkeys other hother).2 heq
    exact hmissing e hmem
  cases hspelled with
  | first d hmem => exact .first d ((hfirst d).1 hmem)
  | second d hmissing hmem =>
    exact .second d (fun e he => hmissing e ((hfirst e).2 he)) ((hsecond hmissing d).1 hmem)
  | silent hmissing hmissing' =>
    exact .silent (fun e he => hmissing e ((hfirst e).2 he))
      fun e he => hmissing' e ((hsecond hmissing e).2 he)

/-- **Hidden fields do not count**, neither for what is read nor for why nothing is. -/
theorem ofRecord_of_agreeOnShown (hfields : IsDictionary fields) (hothers : IsDictionary others)
    (h : AgreeOnShown fields others) : ofRecord others = ofRecord fields := by
  refine ofRecord_congr fun keys hkeys => ?_
  rw [pick_eq_iff hothers]
  exact ((pick_eq_iff hfields).1 rfl).of_agreeOnShown h hkeys

/-- **Specifications are read from records in every spelling.**

* A specification that is declared is read from every record that describes it: each field under
  either key, the ones that are nothing also under none, and anything under the second key where
  the first one is there.
* Whatever two records hold, if they agree on all that is not hidden, then the same is read from
  both, or both fail alike. -/
theorem ofDatum_in_every_spelling :
    (∀ (spec : ServerSpec) (fields : List (String × Datum)), spec.IsDeclared →
      Describes fields spec → ofDatum (.record fields) = .ok spec)
    ∧ ∀ fields others : List (String × Datum), IsDictionary fields → IsDictionary others →
      AgreeOnShown fields others → ofDatum (.record others) = ofDatum (.record fields) := by
  constructor
  · intro spec fields hspec hdescribes
    exact ofRecord_of_describes hspec hdescribes
  · intro fields others hfields hothers hagree
    exact ofRecord_of_agreeOnShown hfields hothers hagree

/-- A specification with the priority 0, and a word of its command that is empty. -/
def urgentSpec : ServerSpec where
  sourceId := .text "gopls"
  id := .text "gopls-docker"
  command := .ofTexts ["gopls", ""]
  priority := .whole 0

/-- A record in both spellings; one id and the image hide something. -/
def urgentFields : List (String × Datum) :=
  [("dockerServerId", .text "gopls-docker"), ("serverId", .list []), ("server_id", .text "gopls"),
   ("serverCommand", .ofTexts ["gopls", ""]), ("dockerImageId", .text "unused"),
   ("docker_image_id", .null), ("priority", .whole 0)]

/-- The record without one hidden field, and with another one changed. -/
def plainFields : List (String × Datum) :=
  [("dockerServerId", .text "gopls-docker"), ("server_id", .text "gopls"),
   ("serverCommand", .ofTexts ["gopls", ""]), ("dockerImageId", .whole 5),
   ("docker_image_id", .null), ("priority", .whole 0)]

lemma isDeclared_urgentSpec : urgentSpec.IsDeclared :=
  ⟨⟨_, by decide, rfl⟩, ⟨_, by decide, rfl⟩, .inr ⟨_, List.cons_ne_nil _ _, rfl⟩, .inr ⟨0, rfl⟩⟩

lemma describes_urgentSpec : Describes urgentFields urgentSpec where
  isDictionary := by unfold IsDictionary urgentFields; decide
  sourceId := .first _ (by simp [urgentFields, urgentSpec])
  id := .second _ (by simp [urgentFields]) (by simp [urgentFields, urgentSpec])
  command := .second _ (by simp [urgentFields]) (by simp [urgentFields, urgentSpec])
  image := .first _ (by simp [urgentFields, urgentSpec])
  containerName := .silent (by simp [urgentFields]) (by simp [urgentFields])
  priority := .first _ (by simp [urgentFields, urgentSpec])

lemma agreeOnShown_urgentFields : AgreeOnShown urgentFields plainFields := by
  have hsource : Hides urgentFields "serverId" :=
    ⟨_, List.mem_cons_self, rfl, .text "gopls", by simp [urgentFields]⟩
  have himage : Hides urgentFields "dockerImageId" :=
    ⟨("docker_image_id", "dockerImageId"), by simp [twins], rfl, .null, by simp [urgentFields]⟩
  intro key hshown d
  have hne : key ≠ "serverId" := by rintro rfl; exact hshown hsource
  have hne' : key ≠ "dockerImageId" := by rintro rfl; exact hshown himage
  simp [urgentFields, plainFields, hne, hne']

/-- What is hidden may be missing or may be anything, and the priority 0 is kept. -/
theorem ofDatum_in_every_spelling_hidden :
    urgentSpec.IsDeclared
      ∧ Describes urgentFields urgentSpec
      ∧ IsDictionary urgentFields
      ∧ IsDictionary plainFields
      ∧ AgreeOnShown urgentFields plainFields
      ∧ ofDatum (.record urgentFields) = .ok urgentSpec
      ∧ ofDatum (.record plainFields) = .ok urgentSpec := by
  have hplain : IsDictionary plainFields := by unfold IsDictionary plainFields; decide
  have hread := ofDatum_in_every_spelling.1 _ _ isDeclared_urgentSpec describes_urgentSpec
  have hsame := ofDatum_in_every_spelling.2 _ _ describes_urgentSpec.isDictionary hplain
    agreeOnShown_urgentFields
  exact ⟨isDeclared_urgentSpec, describes_urgentSpec, describes_urgentSpec.isDictionary, hplain,
    agreeOnShown_urgentFields, hread, hsame.trans hread⟩

end ServerSpec

end ContainerClients
