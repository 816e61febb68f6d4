import ContainerClients.Mount
import ContainerClients.Proofs.Stripping
import ContainerClients.Proofs.Success

/-!
# Mounts that were read

A mount is given as one text, as a pair or as a record.  Whatever it looks like, it gives two roots,
and these are stripped and lose their slashes at the end.  What comes out is in normal form, but it
need not stay as it is when it is read again: `/a /` is stripped first and trimmed then, and the
blank that comes to the end is only stripped the next time.

* `Mount.GivesRoots`, `Mount.Gives` — the two roots of a value, and the mount that they make.
* **`Mount.ofDatum_eq_ok_iff`** — reading a value gives that mount, and fails when there is none.
* `IsKeptRoot`, `IsNormalRoot` — a root with something in it and no blank in front, and one that in
  addition ends in no slash or is made of slashes only; all roots that were read are such roots.
* `IsNormalRoot.normalRoot_eq_self_iff` — a root in normal form stays as it is unless it ends in a
  blank.
* `Mount.reread`, **`Mapping.ofDatum_toDatum`** — a mapping that was read can be read again, and
  what comes of it.
* `Mount.IsSettled`, `Mapping.map_reread_eq_self_iff` — it stays as it is exactly when no root ends
  in a blank.
-/

namespace ContainerClients

open ContainerClients.Text

/-- **A root as it is kept**: there is something in it, and no blank in front. -/
structure IsKeptRoot (root : List Char) : Prop where
  /-- it is not empty -/
  ne_nil : root ≠ []
  /-- it starts with no blank -/
  head : ∀ c ∈ root.head?, isBlank c = false

/-- **A root in normal form**: it is as it is kept, and has no slash at its end unless it is nothing
but slashes. -/
structure IsNormalRoot (root : List Char) : Prop extends IsKeptRoot root where
  /-- it is made of slashes, or does not end in one -/
  slashes : (∀ c ∈ root, c = '/') ∨ root.getLast? ≠ some '/'

/-- As it is decided: the characters of the root are looked at, not every character there is. -/
lemma isNormalRoot_iff {root : List Char} :
    IsNormalRoot root ↔ root ≠ [] ∧ startsBlank root = false
      ∧ (root.all (· == '/') = true ∨ root.getLast? ≠ some '/') := by
  rw [startsBlank_eq_false_iff, List.all_eq_true]
  simp only [beq_iff_eq]
  constructor
  · intro h
    exact ⟨h.ne_nil, h.head, h.slashes⟩
  · rintro ⟨hne, hhead, hslashes⟩
    exact ⟨⟨hne, hhead⟩, hslashes⟩

instance (root : List Char) : Decidable (IsNormalRoot root) := decidable_of_iff' _ isNormalRoot_iff

namespace Mount

/-! ## Slashes at the end -/

lemma trimSlashes_isPrefix (root : List Char) : trimSlashes root <+: root := by
  rw [trimSlashes]
  split
  · exact List.prefix_rfl
  · exact dropEndWhile_isPrefix _ root

lemma trimSlashes_idem (root : List Char) : trimSlashes (trimSlashes root) = trimSlashes root := by
  by_cases h : (dropEndWhile (· == '/') root).isEmpty
  · rw [show trimSlashes root = root from if_pos h]
    exact if_pos h
  · have hroot : trimSlashes root = dropEndWhile (· == '/') root := if_neg h
    rw [hroot, trimSlashes, dropEndWhile_idem]
    exact if_neg h

/-- A trimmed root ends in no slash, or is made of slashes only. -/
lemma trimSlashes_eq_self_iff {root : List Char} :
    trimSlashes root = root
      ↔ dropEndWhile (· == '/') root = root ∨ dropEndWhile (· == '/') root = [] := by
  by_cases h : dropEndWhile (· == '/') root = []
  · have hroot : trimSlashes root = root := if_pos (List.isEmpty_iff.2 h)
    exact iff_of_true hroot (Or.inr h)
  · have hroot : trimSlashes root = dropEndWhile (· == '/') root :=
      if_neg (fun he => h (List.isEmpty_iff.1 he))
    rw [hroot, or_iff_left h]

/-- The same, said of the characters of the root. -/
lemma trimSlashes_eq_self_iff_slashes {root : List Char} :
    trimSlashes root = root ↔ (∀ c ∈ root, c = '/') ∨ root.getLast? ≠ some '/' := by
  rw [trimSlashes_eq_self_iff, dropEndWhile_eq_self_iff, dropEndWhile_eq_nil_iff, or_comm]
  simp only [beq_iff_eq, beq_eq_false_iff_ne, Option.mem_def, ne_eq]
  refine or_congr_right ⟨fun h hlast => h '/' hlast rfl, ?_⟩
  rintro h c hc rfl
  exact h hc

/-! ## Roots as they are kept -/

/-- What is kept of a root stands in it. -/
lemma normalRoot_isInfix (root : List Char) : normalRoot root <:+: root :=
  (trimSlashes_isPrefix _).isInfix.trans
    ((dropEndWhile_isPrefix _ _).isInfix.trans (List.dropWhile_suffix _).isInfix)

/-- **What is kept of a root is in normal form**, unless nothing is. -/
lemma isNormalRoot_normalRoot {root : List Char} (h : normalRoot root ≠ []) :
    IsNormalRoot (normalRoot root) where
  ne_nil := h
  head := fun c hc => head?_strip c (head?_of_isPrefix (trimSlashes_isPrefix _) hc)
  slashes := trimSlashes_eq_self_iff_slashes.1 (trimSlashes_idem _)

/-- Something is left of a kept root. -/
lemma normalRoot_ne_nil {root : List Char} (h : IsKeptRoot root) : normalRoot root ≠ [] := by
  have hstrip : strip root ≠ [] := strip_ne_nil h.ne_nil h.head
  rw [normalRoot, trimSlashes]
  split
  · exact hstrip
  · rename_i hempty
    exact fun hnil => hempty (List.isEmpty_iff.2 hnil)

/-- A root is kept as it is when there is nothing to strip and nothing to trim. -/
lemma normalRoot_eq_self_iff {root : List Char} :
    normalRoot root = root ↔ strip root = root ∧ trimSlashes root = root := by
  constructor
  · intro h
    -- stripping only takes away, and there is still the whole root behind it
    have hwhole : root.length ≤ (strip root).length := by
      conv_lhs => rw [← h]
      exact (trimSlashes_isPrefix (strip root)).length_le
    have hinfix : strip root <:+: root :=
      (dropEndWhile_isPrefix _ _).isInfix.trans (List.dropWhile_suffix _).isInfix
    have hstrip : strip root = root := hinfix.eq_of_length_le hwhole
    refine ⟨hstrip, ?_⟩
    rwa [normalRoot, hstrip] at h
  · rintro ⟨hstrip, htrim⟩
    rw [normalRoot, hstrip, htrim]

end Mount

/-- **A root in normal form stays as it is unless it ends in a blank.** -/
theorem IsNormalRoot.normalRoot_eq_self_iff {root : List Char} (h : IsNormalRoot root) :
    Mount.normalRoot root = root ↔ endsBlank root = false := by
  have htrim : Mount.trimSlashes root = root := Mount.trimSlashes_eq_self_iff_slashes.2 h.slashes
  rw [Mount.normalRoot_eq_self_iff, strip_eq_self_iff, and_iff_left htrim,
    and_iff_right (startsBlank_eq_false_iff.2 h.head)]

namespace Mount

/-! ## What a value gives -/

/-- **The two roots that a value gives**: what stands around the last colon of a text, the two of a
pair, or the two fields of a record. -/
inductive GivesRoots : Datum → List Char → List Char → Prop where
  /-- a text -/
  | text (host : List Char) {container : List Char} (h : ':' ∉ container) :
      GivesRoots (.text (String.ofList (host ++ ':' :: container))) host container
  /-- a pair -/
  | pair (host container : Datum) :
      GivesRoots (.list [host, container]) host.shown.toList container.shown.toList
  /-- a record -/
  | record (fields : List (String × Datum)) :
      GivesRoots (.record fields) (rootField "source" fields) (rootField "destination" fields)

/-- **The mount that a value gives**: its roots are those of the value as they are kept, and neither
is empty. -/
def Gives (item : Datum) (mount : Mount) : Prop :=
  ∃ host container, GivesRoots item host container
    ∧ (mount.host.toList = normalRoot host ∧ normalRoot host ≠ [])
    ∧ mount.container.toList = normalRoot container ∧ normalRoot container ≠ []

lemma ofRoots_eq_ok_iff {item : Datum} {host container : List Char} {mount : Mount} :
    ofRoots item host container = .ok mount
      ↔ (mount.host.toList = normalRoot host ∧ normalRoot host ≠ [])
        ∧ mount.container.toList = normalRoot container ∧ normalRoot container ≠ [] := by
  by_cases hempty : (normalRoot host).isEmpty || (normalRoot container).isEmpty
  · rw [ofRoots, if_pos hempty]
    simp only [Bool.or_eq_true, List.isEmpty_iff] at hempty
    refine iff_of_false (by simp) fun h => ?_
    exact hempty.elim h.1.2 h.2.2
  · rw [ofRoots, if_neg hempty, Except.ok.injEq]
    simp only [Bool.or_eq_true, List.isEmpty_iff, not_or] at hempty
    constructor
    · rintro rfl
      simp [hempty]
    · rintro ⟨⟨hhost, -⟩, hcontainer, -⟩
      rw [← hhost, ← hcontainer, String.ofList_toList, String.ofList_toList]

lemma ofDatum_of_givesRoots {item : Datum} {host container : List Char}
    (h : GivesRoots item host container) : ofDatum item = ofRoots item host container := by
  cases h with
  | text host h => simp [ofDatum, cutLast_append_cons host h]
  | pair host container => rfl
  | record fields => rfl

lemma exists_givesRoots_of_ofDatum {item : Datum} {mount : Mount} (h : ofDatum item = .ok mount) :
    ∃ host container, GivesRoots item host container := by
  unfold ofDatum at h
  split at h
  · rename_i s
    split at h
    · rename_i host container hcut
      obtain ⟨hs, hcolon⟩ := eq_of_cutLast hcut
      refine ⟨host, container, ?_⟩
      rw [← s.ofList_toList, hs]
      exact .text host hcolon
    · contradiction
  · exact ⟨_, _, .record _⟩
  · exact ⟨_, _, .pair _ _⟩
  · contradiction
  · contradiction

/-- **Reading a value gives its mount**, and fails when it gives none. -/
theorem ofDatum_eq_ok_iff {item : Datum} {mount : Mount} :
    ofDatum item = .ok mount ↔ Gives item mount := by
  constructor
  · intro h
    obtain ⟨host, container, hroots⟩ := exists_givesRoots_of_ofDatum h
    rw [ofDatum_of_givesRoots hroots] at h
    exact ⟨host, container, hroots, ofRoots_eq_ok_iff.1 h⟩
  · rintro ⟨host, container, hroots, hmount⟩
    rw [ofDatum_of_givesRoots hroots]
    exact ofRoots_eq_ok_iff.2 hmount

/-- **A mount that was read has roots in normal form.** -/
lemma isNormalRoot_of_ofDatum {item : Datum} {mount : Mount} (h : ofDatum item = .ok mount) :
    IsNormalRoot mount.host.toList ∧ IsNormalRoot mount.container.toList := by
  obtain ⟨host, container, -, ⟨hhost, hne⟩, hcontainer, hne'⟩ := ofDatum_eq_ok_iff.1 h
  rw [hhost, hcontainer]
  exact ⟨isNormalRoot_normalRoot hne, isNormalRoot_normalRoot hne'⟩

/-- The roots of a mount that was read are trimmed. -/
lemma trimSlashes_of_ofDatum {item : Datum} {mount : Mount} (h : ofDatum item = .ok mount) :
    trimSlashes mount.host.toList = mount.host.toList
      ∧ trimSlashes mount.container.toList = mount.container.toList := by
  obtain ⟨hhost, hcontainer⟩ := isNormalRoot_of_ofDatum h
  exact ⟨trimSlashes_eq_self_iff_slashes.2 hhost.slashes,
    trimSlashes_eq_self_iff_slashes.2 hcontainer.slashes⟩

/-! ## Reading again -/

/-- **A mount that is read once more**: its roots are stripped and trimmed again. -/
def reread (mount : Mount) : Mount where
  host := String.ofList (normalRoot mount.host.toList)
  container := String.ofList (normalRoot mount.container.toList)

/-- A mount of kept roots can be read from the pair of them. -/
lemma ofDatum_pair {mount : Mount} (hhost : IsKeptRoot mount.host.toList)
    (hcontainer : IsKeptRoot mount.container.toList) :
    ofDatum (.ofTexts [mount.host, mount.container]) = .ok mount.reread := by
  refine ofDatum_eq_ok_iff.2 ⟨_, _, .pair (.text mount.host) (.text mount.container), ?_⟩
  simp [reread, normalRoot_ne_nil hhost, normalRoot_ne_nil hcontainer]

/-- **A settled mount**: neither root ends in a blank. -/
def IsSettled (mount : Mount) : Prop :=
  endsBlank mount.host.toList = false ∧ endsBlank mount.container.toList = false

instance (mount : Mount) : Decidable mount.IsSettled := inferInstanceAs (Decidable (_ ∧ _))

/-- **A mount in normal form stays as it is exactly when it is settled.** -/
lemma reread_eq_self_iff {mount : Mount} (hhost : IsNormalRoot mount.host.toList)
    (hcontainer : IsNormalRoot mount.container.toList) :
    mount.reread = mount ↔ mount.IsSettled := by
  have hroot : ∀ root : String,
      String.ofList (normalRoot root.toList) = root ↔ normalRoot root.toList = root.toList := by
    intro root
    rw [← String.toList_inj, String.toList_ofList]
  rw [IsSettled, ← hhost.normalRoot_eq_self_iff, ← hcontainer.normalRoot_eq_self_iff, ← hroot,
    ← hroot]
  obtain ⟨host, container⟩ := mount
  rw [reread, mk.injEq]

end Mount

namespace Mapping

/-- **Reading a list gives one mount an item**, in their order. -/
theorem ofDatum_list_eq_ok_iff {items : List Datum} {mapping : Mapping} :
    Mapping.ofDatum (.list items) = .ok mapping ↔ List.Forall₂ Mount.Gives items mapping := by
  have hread : Mapping.ofDatum (.list items) = items.mapM Mount.ofDatum := rfl
  rw [hread, mapM_eq_ok_iff]
  simp only [Mount.ofDatum_eq_ok_iff]

/-- The mounts of a mapping that was read were read. -/
lemma exists_ofDatum_of_mem {d : Datum} {mapping : Mapping} (h : Mapping.ofDatum d = .ok mapping)
    {mount : Mount} (hm : mount ∈ mapping) : ∃ item, Mount.ofDatum item = .ok mount := by
  unfold Mapping.ofDatum at h
  split at h
  · obtain rfl := Except.ok.inj h
    exact absurd hm List.not_mem_nil
  · split at h
    · obtain ⟨item, -, hitem⟩ := exists_of_mem_mapM h hm
      exact ⟨item, hitem⟩
    · contradiction

/-- **A mapping that was read has roots in normal form.** -/
theorem isNormalRoot_of_ofDatum {d : Datum} {mapping : Mapping}
    (h : Mapping.ofDatum d = .ok mapping) {mount : Mount} (hm : mount ∈ mapping) :
    IsNormalRoot mount.host.toList ∧ IsNormalRoot mount.container.toList := by
  obtain ⟨item, hitem⟩ := exists_ofDatum_of_mem h hm
  exact Mount.isNormalRoot_of_ofDatum hitem

lemma isKeptRoot_of_ofDatum {d : Datum} {mapping : Mapping}
    (h : Mapping.ofDatum d = .ok mapping) {mount : Mount} (hm : mount ∈ mapping) :
    IsKeptRoot mount.host.toList ∧ IsKeptRoot mount.container.toList :=
  (isNormalRoot_of_ofDatum h hm).imp (·.toIsKeptRoot) (·.toIsKeptRoot)

/-- **A mapping that was read can be read again**, mount by mount. -/
theorem ofDatum_toDatum {d : Datum} {mapping : Mapping} (h : Mapping.ofDatum d = .ok mapping) :
    Mapping.ofDatum mapping.toDatum = .ok (mapping.map Mount.reread) := by
  rw [toDatum, ofDatum_list_eq_ok_iff, List.forall₂_map_left_iff, List.forall₂_map_right_iff,
    List.forall₂_same]
  intro mount hm
  obtain ⟨hhost, hcontainer⟩ := isKeptRoot_of_ofDatum h hm
  exact Mount.ofDatum_eq_ok_iff.1 (Mount.ofDatum_pair hhost hcontainer)

/-- What was read stays as it is exactly when all mounts are settled. -/
lemma map_reread_eq_self_iff {d : Datum} {mapping : Mapping}
    (h : Mapping.ofDatum d = .ok mapping) :
    mapping.map Mount.reread = mapping ↔ ∀ mount ∈ mapping, mount.IsSettled := by
  conv_lhs => rhs; rw [← List.map_id mapping]
  rw [List.map_inj_left]
  refine forall₂_congr fun mount hm => ?_
  obtain ⟨hhost, hcontainer⟩ := isNormalRoot_of_ofDatum h hm
  exact Mount.reread_eq_self_iff hhost hcontainer

end Mapping

end ContainerClients
