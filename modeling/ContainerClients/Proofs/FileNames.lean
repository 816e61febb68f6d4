import ContainerClients.Client
import ContainerClients.Proofs.Anchors
import ContainerClients.Proofs.FileUri
import ContainerClients.Proofs.Success

/-!
# Which files a client handles

A client handles a file by its name: by the whole of it, or by what stands behind its last dot.  The
name is the last piece of the path that is not empty and not a single dot, so a slash at the end
makes no difference, and neither do the folders in front.  A dot at either end of the name starts no
extension: `.bashrc` and `notes.` have none.  A name without an extension is handled if the client
has an empty entry.

Capital letters do not count, on either side.  The rule for that looks at a letter's neighbours, but
the dot in front of an extension is nothing that it sees.

* `FilePath.IsFileName` — the name of the file at a path; `isFileName_iff`.
* `FilePath.SplitsAt` — a name with an extension; `suffixOf_of_splitsAt`,
  `suffixOf_of_not_splitsAt`.
* `Text.lower_dot_cons` — an extension is lower-cased as if it stood alone.
* `Text.SameButCase` — two texts that differ in the case of ASCII letters.
* `Client.extensions_of_direct` — the entries of a client are those that it is given, in lower case.
* **`handles_iff`** — by which entries a file is handled, and what does not count.
-/

namespace ContainerClients

open ContainerClients.Text

/-! ## Names of files -/

namespace FilePath

variable {path name stem extension : List Char}

/-- **The name of the file at a path**: the last piece between slashes that is neither empty nor a
dot; the empty text if there is none. -/
def IsFileName (path name : List Char) : Prop :=
  (∃ front back, pieces '/' path = front ++ name :: back ∧ isSegment name = true
      ∧ ∀ piece ∈ back, isSegment piece = false)
    ∨ name = [] ∧ ∀ piece ∈ pieces '/' path, isSegment piece = false

/-- **A name with an extension**, behind its last dot; neither the extension nor what is in front of
the dot is empty. -/
structure SplitsAt (name stem extension : List Char) : Prop where
  /-- the name is cut at a dot -/
  name_eq : name = stem ++ '.' :: extension
  /-- something is in front of the dot -/
  stem_ne : stem ≠ []
  /-- something is behind it -/
  extension_ne : extension ≠ []
  /-- no other dot is behind it -/
  dot_not_mem : '.' ∉ extension

lemma filter_isSegment_eq_nil {parts : List (List Char)}
    (h : ∀ piece ∈ parts, isSegment piece = false) : parts.filter isSegment = [] :=
  List.filter_eq_nil_iff.2 fun piece hp => Bool.eq_false_iff.1 (h piece hp)

lemma name_of_isFileName (h : IsFileName path name) : (ofText path).name = name := by
  rw [FilePath.name, ofText_segments, segmentsOf]
  rcases h with ⟨front, back, hpieces, hname, hback⟩ | ⟨rfl, hall⟩
  · rw [hpieces, List.filter_append, List.filter_cons_of_pos hname, filter_isSegment_eq_nil hback,
      List.getLast?_append, List.getLast?_singleton]
    rfl
  · rw [filter_isSegment_eq_nil hall]
    rfl

/-- Among any pieces there is a last one that counts, or there is none. -/
lemma exists_last_isSegment (parts : List (List Char)) :
    (∃ front piece back, parts = front ++ piece :: back ∧ isSegment piece = true
        ∧ ∀ piece ∈ back, isSegment piece = false)
      ∨ ∀ piece ∈ parts, isSegment piece = false := by
  induction parts with
  | nil => exact .inr fun _ hp => absurd hp List.not_mem_nil
  | cons first rest ih =>
      rcases ih with ⟨front, piece, back, rfl, hpiece, hback⟩ | hnone
      · exact .inl ⟨first :: front, piece, back, rfl, hpiece, hback⟩
      · cases hfirst : isSegment first with
        | true => exact .inl ⟨[], first, rest, rfl, hfirst, hnone⟩
        | false => exact .inr (List.forall_mem_cons.2 ⟨hfirst, hnone⟩)

/-- **Every path has exactly one file name**, the one that is computed. -/
lemma isFileName_iff : IsFileName path name ↔ (ofText path).name = name := by
  refine ⟨name_of_isFileName, ?_⟩
  rintro rfl
  have hsome : ∃ name, IsFileName path name := by
    rcases exists_last_isSegment (pieces '/' path) with
      ⟨front, piece, back, hpieces, hpiece, hback⟩ | hnone
    · exact ⟨piece, .inl ⟨front, back, hpieces, hpiece, hback⟩⟩
    · exact ⟨[], .inr ⟨rfl, hnone⟩⟩
  obtain ⟨name, hname⟩ := hsome
  rwa [name_of_isFileName hname]

/-- **Folders in front do not change the name**, if there is one. -/
lemma name_append_slash (folder : List Char) (h : (ofText path).name ≠ []) :
    (ofText (folder ++ '/' :: path)).name = (ofText path).name := by
  have hsegments : segmentsOf path ≠ [] := by
    intro hnil
    refine h ?_
    rw [FilePath.name, ofText_segments, hnil]
    rfl
  rw [FilePath.name, FilePath.name, ofText_segments, ofText_segments, segmentsOf_append,
    List.getLast?_append_of_ne_nil _ hsegments]

/-! ## Extensions -/

/-- The suffix of a name with an extension. -/
lemma suffixOf_of_splitsAt (h : SplitsAt name stem extension) :
    suffixOf name = '.' :: extension := by
  rw [suffixOf, h.name_eq, cutLast_append_cons stem h.dot_not_mem]
  simp [h.stem_ne, h.extension_ne]

/-- A name without an extension has no suffix. -/
lemma suffixOf_of_not_splitsAt (h : ¬ ∃ stem extension, SplitsAt name stem extension) :
    suffixOf name = [] := by
  rw [suffixOf]
  cases hcut : cutLast '.' name with
  | none => rfl
  | some cut =>
      obtain ⟨stem, extension⟩ := cut
      obtain ⟨hname, hdot⟩ := eq_of_cutLast hcut
      refine if_pos ?_
      by_contra hempty
      rw [Bool.or_eq_true, not_or, List.isEmpty_iff, List.isEmpty_iff] at hempty
      exact h ⟨stem, extension, hname, hempty.1, hempty.2, hdot⟩

/-- A name has one extension at most. -/
lemma SplitsAt.extension_eq {stem' extension' : List Char} (h : SplitsAt name stem extension)
    (h' : SplitsAt name stem' extension') : extension = extension' :=
  (List.cons.inj ((suffixOf_of_splitsAt h).symm.trans (suffixOf_of_splitsAt h'))).2

end FilePath

/-! ## Lower case -/

namespace Text

/-- A dot is passed over, so it is no neighbour that counts. -/
lemma besideCased_concat_dot (passed : List Char) :
    besideCased (passed ++ ['.']) = besideCased passed := by
  have hdot : caseIgnorable.has '.' = true := by decide
  rw [besideCased, besideCased, List.dropWhile_append, List.dropWhile_cons_of_pos hdot,
    List.dropWhile_nil]
  cases passed.dropWhile caseIgnorable.has <;> rfl

lemma lowerFrom_concat_dot (passed s : List Char) :
    lowerFrom (passed ++ ['.']) s = lowerFrom passed s := by
  induction s generalizing passed with
  | nil => rfl
  | cons c s ih => rw [lowerFrom, lowerFrom, besideCased_concat_dot, ← List.cons_append, ih]

/-- **Behind a dot a text is lower-cased as if it stood alone.** -/
lemma lower_dot_cons (s : List Char) : lower ('.' :: s) = '.' :: lower s := by
  rw [lower, lowerFrom, ← List.nil_append ['.'], lowerFrom_concat_dot]
  rfl

/-- Nothing becomes empty by being lower-cased. -/
lemma lower_eq_nil_iff {s : List Char} : lower s = [] ↔ s = [] := by
  cases s with
  | nil => exact iff_of_true rfl rfl
  | cons c s =>
      refine iff_of_false ?_ (List.cons_ne_nil c s)
      rw [lower, lowerFrom]
      split_ifs <;> simp

/-! ### ASCII letters -/

/-- A text of ASCII characters. -/
def IsAscii (s : List Char) : Prop := ∀ c ∈ s, c.toNat < 0x80

lemma all_iff_isAscii {s : List Char} : s.all (fun c => c.toNat.blt 0x80) = true ↔ IsAscii s := by
  simp [IsAscii, List.all_eq_true]

instance (s : List Char) : Decidable (IsAscii s) := decidable_of_iff _ all_iff_isAscii

/-- **Two texts are the same but for the case of ASCII letters.** -/
def SameButCase (s t : String) : Prop := s.toList.map lowerAscii = t.toList.map lowerAscii

instance (s t : String) : Decidable (SameButCase s t) :=
  inferInstanceAs (Decidable (s.toList.map lowerAscii = t.toList.map lowerAscii))

lemma toNat_lowerAscii (c : Char) :
    (lowerAscii c).toNat = if 0x41 ≤ c.toNat ∧ c.toNat ≤ 0x5A then c.toNat + 32 else c.toNat := by
  rw [lowerAscii]
  split_ifs with h
  · exact Uri.toNat_ofNat_of_lt (by omega)
  · rfl

/-- What is neither a capital nor a small letter comes from itself only. -/
lemma lowerAscii_beq {mark : Char} (hmark : mark.toNat < 0x41) (c : Char) :
    (lowerAscii c == mark) = (c == mark) := by
  rw [Bool.eq_iff_iff, beq_iff_eq, beq_iff_eq, ← Char.toNat_inj, ← Char.toNat_inj, toNat_lowerAscii]
  split_ifs <;> omega

lemma isAscii_map_lowerAscii_iff {s : List Char} : IsAscii (s.map lowerAscii) ↔ IsAscii s := by
  simp only [IsAscii, List.forall_mem_map]
  refine forall₂_congr fun c _ => ?_
  rw [toNat_lowerAscii]
  split_ifs <;> omega

/-- Texts that are the same but for the case of ASCII letters are ASCII texts together. -/
lemma SameButCase.isAscii {s t : String} (h : SameButCase s t) (hs : IsAscii s.toList) :
    IsAscii t.toList := by
  rw [← isAscii_map_lowerAscii_iff, ← h, isAscii_map_lowerAscii_iff]
  exact hs

lemma SameButCase.lowered_eq {s t : String} (h : SameButCase s t) (hs : IsAscii s.toList) :
    lowered s = lowered t := by
  rw [lowered, lowered, lower_eq_map_of_ascii hs, lower_eq_map_of_ascii (h.isAscii hs), h]

/-- So are lists of them, item by item. -/
lemma map_lowered_of_sameButCase {entries entries' : List String}
    (hascii : ∀ entry ∈ entries, IsAscii entry.toList)
    (h : List.Forall₂ SameButCase entries entries') :
    entries'.map lowered = entries.map lowered := by
  induction h with
  | nil => rfl
  | cons hentry _ ih =>
      rw [List.forall_mem_cons] at hascii
      rw [List.map_cons, List.map_cons, ← hentry.lowered_eq hascii.1, ih hascii.2]

/-- Only an empty entry is empty in lower case. -/
lemma lower_nil_mem_iff {entries : List String} :
    lower [] ∈ entries.map (lower ·.toList) ↔ "" ∈ entries := by
  have hempty (entry : String) : lower entry.toList = [] ↔ entry = "" := by
    rw [lower_eq_nil_iff, String.toList_eq_nil_iff]
  change [] ∈ entries.map (lower ·.toList) ↔ "" ∈ entries
  simp only [List.mem_map, hempty, exists_eq_right]

end Text

namespace FilePath

variable {path name : List Char}

lemma isSegment_map_lowerAscii (piece : List Char) :
    isSegment (piece.map lowerAscii) = isSegment piece := by
  match piece with
  | [] => rfl
  | [c] =>
      have hdot : (lowerAscii c == '.') = (c == '.') := lowerAscii_beq (by decide) c
      simp [isSegment, bne, hdot]
  | _ :: _ :: _ =>
      -- more than one character is no single dot
      have hlong (c d : Char) (rest : List Char) : (c :: d :: rest != ['.']) = true :=
        bne_iff_ne.2 (by simp)
      simp only [isSegment, List.map_cons, hlong, List.isEmpty_cons]

/-- Lower-casing its letters lower-cases the name of a path. -/
lemma name_map_lowerAscii (path : List Char) :
    (ofText (path.map lowerAscii)).name = (ofText path).name.map lowerAscii := by
  have hsegments : segmentsOf (path.map lowerAscii)
      = (segmentsOf path).map (List.map lowerAscii) := by
    have hkept : isSegment ∘ List.map lowerAscii = isSegment :=
      funext isSegment_map_lowerAscii
    rw [segmentsOf, segmentsOf, pieces_map (lowerAscii_beq (by decide)), List.filter_map, hkept]
  rw [FilePath.name, FilePath.name, ofText_segments, ofText_segments, hsegments, List.getLast?_map]
  cases (segmentsOf path).getLast? <;> rfl

/-- And the suffix of a name. -/
lemma suffixOf_map_lowerAscii (name : List Char) :
    suffixOf (name.map lowerAscii) = (suffixOf name).map lowerAscii := by
  rw [suffixOf, suffixOf, cutLast_map (lowerAscii_beq (by decide))]
  cases cutLast '.' name with
  | none => rfl
  | some cut =>
      simp only [Option.map_some, List.isEmpty_map]
      split_ifs <;> rfl

/-- What stands in a name stands in the path. -/
lemma name_subset (path : List Char) : (ofText path).name ⊆ path := by
  rw [FilePath.name, ofText_segments]
  cases hlast : (segmentsOf path).getLast? with
  | none => exact List.nil_subset path
  | some piece =>
      have hmem : piece ∈ pieces '/' path := List.mem_of_mem_filter (List.mem_of_getLast? hlast)
      obtain ⟨first, others, hpieces⟩ := List.exists_cons_of_ne_nil (pieces_ne_nil '/' path)
      obtain ⟨hfirst, hothers⟩ := isInfix_of_pieces hpieces
      rw [hpieces] at hmem
      rcases List.mem_cons.1 hmem with rfl | hmem
      · exact hfirst.subset
      · exact fun c hc => (hothers piece hmem).subset (List.mem_cons_of_mem _ hc)

lemma suffixOf_subset (name : List Char) : suffixOf name ⊆ name := by
  by_cases h : ∃ stem extension, SplitsAt name stem extension
  · obtain ⟨stem, extension, hsplits⟩ := h
    rw [suffixOf_of_splitsAt hsplits, hsplits.name_eq]
    exact List.subset_append_right _ _
  · rw [suffixOf_of_not_splitsAt h]
    exact List.nil_subset name

/-- **The name and the suffix of an ASCII path in lower case** are those of the path in lower
case. -/
lemma lower_name_of_isAscii (h : IsAscii path) :
    lower (ofText path).name = (ofText (path.map lowerAscii)).name
      ∧ lower (ofText path).suffix = (ofText (path.map lowerAscii)).suffix := by
  have hname : IsAscii (ofText path).name := fun c hc => h c (name_subset path hc)
  have hsuffix : IsAscii (suffixOf (ofText path).name) :=
    fun c hc => hname c (suffixOf_subset _ hc)
  rw [suffix, suffix, name_map_lowerAscii, suffixOf_map_lowerAscii]
  exact ⟨lower_eq_map_of_ascii hname, lower_eq_map_of_ascii hsuffix⟩

end FilePath

/-! ## What a client handles -/

namespace Client

open ContainerClients.FilePath

variable {client client' : Client} {id id' : ClientId}
  {command extensions priority command' extensions' priority' : Datum}
  {entries entries' : List String}

/-- **The entries of a client** are those that it is given, in lower case. -/
lemma extensions_of_direct (hentries : extensions.items? = some (entries.map .text))
    (hclient : direct id command extensions priority = .ok client) :
    client.extensions = entries.map lowered := by
  obtain ⟨argv, -, h⟩ := bind_eq_ok_iff.1 hclient
  obtain ⟨items, hitems, h⟩ := bind_eq_ok_iff.1 h
  obtain ⟨small, hsmall, h⟩ := bind_eq_ok_iff.1 h
  obtain rfl := Except.ok.inj h
  rw [Datum.needParts, hentries] at hitems
  rw [← Except.ok.inj hitems, mapM_eq_ok_iff, List.forall₂_map_left_iff] at hsmall
  have hall : List.Forall₂ (fun entry low => lowered entry = low) entries small :=
    hsmall.imp fun entry low hlow => Except.ok.inj hlow
  rw [← List.forall₂_map_left_iff (f := lowered), List.forall₂_eq_eq_eq] at hall
  exact hall.symm

/-- A file is handled by its suffix or by its name, in lower case. -/
lemma handles_eq_true_iff {path : String} (hentries : client.extensions = entries.map lowered) :
    client.handles path = true
      ↔ lower (ofText path.toList).name ∈ entries.map (lower ·.toList)
        ∨ lower (ofText path.toList).suffix ∈ entries.map (lower ·.toList) := by
  have hmem (s : List Char) :
      String.ofList s ∈ entries.map lowered ↔ s ∈ entries.map (lower ·.toList) := by
    simp only [List.mem_map, lowered, String.ofList_inj]
  rw [handles, hentries, Bool.or_eq_true, List.contains_iff_mem, List.contains_iff_mem, hmem, hmem,
    or_comm]

/-- Paths with one name in lower case, and one suffix, are handled alike. -/
lemma handles_congr {path path' : String} (hextensions : client.extensions = client'.extensions)
    (hname : lower (ofText path.toList).name = lower (ofText path'.toList).name)
    (hsuffix : lower (ofText path.toList).suffix = lower (ofText path'.toList).suffix) :
    client.handles path = client'.handles path' := by
  rw [handles, handles]
  simp only [hextensions, hname, hsuffix]

/-- **Which files a client handles**, by the entries that it is given.

* It handles a file if its name in lower case is among the entries in lower case; or the name has an
  extension, and a dot with the extension is among them; or the name has none, and there is an empty
  entry.
* Folders in front of a path with a name do not count.
* Neither does the case of ASCII letters, in the path or in the entries, if both are ASCII texts. -/
theorem handles_iff (hentries : extensions.items? = some (entries.map .text))
    (hclient : direct id command extensions priority = .ok client) :
    (∀ path : String, ∃! name, IsFileName path.toList name)
    ∧ (∀ (path : String) (name : List Char), IsFileName path.toList name →
      (client.handles path = true
        ↔ lower name ∈ entries.map (lower ·.toList)
          ∨ (∃ stem extension, SplitsAt name stem extension
            ∧ '.' :: lower extension ∈ entries.map (lower ·.toList))
          ∨ (¬ ∃ stem extension, SplitsAt name stem extension) ∧ "" ∈ entries))
    ∧ (∀ folder path : String, (∃ name, IsFileName path.toList name ∧ name ≠ []) →
      client.handles (folder ++ "/" ++ path) = client.handles path)
    ∧ ∀ (id' : ClientId) (command' extensions' priority' : Datum) (entries' : List String)
        (client' : Client), extensions'.items? = some (entries'.map .text) →
      direct id' command' extensions' priority' = .ok client' →
      (∀ entry ∈ entries, IsAscii entry.toList) → List.Forall₂ SameButCase entries entries' →
      ∀ path path' : String, IsAscii path.toList → SameButCase path path' →
        client'.handles path' = client.handles path := by
  have hlowered := extensions_of_direct hentries hclient
  refine ⟨fun path => ?_, fun path name hname => ?_, fun folder path hpath => ?_, ?_⟩
  · exact ⟨_, isFileName_iff.2 rfl, fun name hname => (isFileName_iff.1 hname).symm⟩
  · obtain rfl := isFileName_iff.1 hname
    rw [handles_eq_true_iff hlowered, suffix]
    refine or_congr_right ?_
    by_cases hsplits : ∃ stem extension, SplitsAt (ofText path.toList).name stem extension
    · obtain ⟨stem, extension, h⟩ := hsplits
      rw [suffixOf_of_splitsAt h, lower_dot_cons]
      constructor
      · exact fun hmem => .inl ⟨stem, extension, h, hmem⟩
      · rintro (⟨stem', extension', h', hmem⟩ | ⟨hnone, -⟩)
        · rwa [h.extension_eq h']
        · exact absurd ⟨stem, extension, h⟩ hnone
    · rw [suffixOf_of_not_splitsAt hsplits, lower_nil_mem_iff]
      constructor
      · exact fun hmem => .inr ⟨hsplits, hmem⟩
      · rintro (⟨stem, extension, h, -⟩ | ⟨-, hmem⟩)
        · exact absurd ⟨stem, extension, h⟩ hsplits
        · exact hmem
  · obtain ⟨name, hname, hne⟩ := hpath
    obtain rfl := isFileName_iff.1 hname
    have hsame : (ofText (folder ++ "/" ++ path).toList).name = (ofText path.toList).name := by
      rw [String.toList_append, String.toList_append, List.append_assoc]
      exact name_append_slash folder.toList hne
    exact handles_congr rfl (by rw [hsame]) (by rw [suffix, suffix, hsame])
  · intro id' command' extensions' priority' entries' client' hentries' hclient' hascii hsame path
      path' hpath hpath'
    have hlowered' := extensions_of_direct hentries' hclient'
    obtain ⟨hname, hsuffix⟩ := lower_name_of_isAscii hpath
    obtain ⟨hname', hsuffix'⟩ := lower_name_of_isAscii (hpath'.isAscii hpath)
    rw [← hpath'] at hname' hsuffix'
    refine handles_congr ?_ (hname'.trans hname.symm) (hsuffix'.trans hsuffix.symm)
    rw [hlowered, hlowered', map_lowered_of_sameButCase hascii hsame]

/-- Entries for a whole name, for an extension, and for what looks like two of them. -/
def archiveEntries : List String := ["Makefile", ".GZ", ".tar.gz"]

/-- The client of a server for these entries. -/
def archiveClient : Client :=
  .onHost (.text "archives") ["makefile", ".gz", ".tar.gz"] ["serve"] (.whole 0)

/-- An archive is handled by its last extension, also behind folders and in capital letters. -/
theorem handles_iff_archive :
    (Datum.ofTexts archiveEntries).items? = some (archiveEntries.map .text)
      ∧ direct (.text "archives") (.ofTexts ["serve"]) (.ofTexts archiveEntries) (.whole 0)
        = .ok archiveClient
      ∧ IsFileName "dump.tar.gz/.".toList "dump.tar.gz".toList
      ∧ archiveClient.handles "dump.tar.gz/." = true
      ∧ archiveClient.handles "/srv/./dump.tar.gz/." = true
      ∧ archiveClient.handles "DUMP.tar.GZ/." = true := by
  have hentries : (Datum.ofTexts archiveEntries).items? = some (archiveEntries.map .text) := rfl
  have hclient : direct (.text "archives") (.ofTexts ["serve"]) (.ofTexts archiveEntries) (.whole 0)
    = .ok archiveClient := rfl
  have hname : IsFileName "dump.tar.gz/.".toList "dump.tar.gz".toList :=
    .inl ⟨[], [".".toList], by decide⟩
  obtain ⟨-, hhandles, hfolders, hcases⟩ := handles_iff hentries hclient
  have hsplits : SplitsAt "dump.tar.gz".toList "dump.tar".toList "gz".toList :=
    ⟨by decide, by decide, by decide, by decide⟩
  have hdump : archiveClient.handles "dump.tar.gz/." = true :=
    (hhandles _ _ hname).2 (.inr (.inl ⟨_, _, hsplits, by decide⟩))
  have hsame : List.Forall₂ SameButCase archiveEntries archiveEntries :=
    List.forall₂_same.2 fun _ _ => rfl
  refine ⟨hentries, hclient, hname, hdump, ?_, ?_⟩
  · exact (hfolders "/srv/." "dump.tar.gz/." ⟨_, hname, by decide⟩).trans hdump
  · exact (hcases _ _ _ _ _ _ hentries hclient (by decide) hsame "dump.tar.gz/." "DUMP.tar.GZ/."
      (by decide) (by decide)).trans hdump

end Client

end ContainerClients
