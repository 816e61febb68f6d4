import Mathlib.Data.List.TakeWhile
import ContainerClients.Proofs.Spelling

/-!
# What every spelling of a path shows

A search for a text in a path sees one spelling of it, and the text may stand between two segments
that another spelling drives apart.  The *anchors* of a path are what no spelling can tear.

* `FilePath.anchors` — the root of a path, and each segment with the slash before it.
* **`isInfix_of_mem_anchors`** — every spelling of the path, or of a path below it, shows the
  anchors.
* **`plain_isInfix_anchor`** — conversely, a word that occurs in a spelling with gaps as long as
  itself denotes a path whose plain spelling occurs in an anchor.

The second law goes by windows: such a word touches one segment and the gaps around it at most.
-/

namespace ContainerClients.FilePath

open ContainerClients.Text

/-- **The anchors of a path.**  A relative path has no slash before its first segment. -/
def anchors (path : FilePath) : List (List Char) :=
  match path.root, path.segments with
  | .none, [] => []
  | .none, first :: rest => first :: rest.map ('/' :: ·)
  | .slash, segments => ['/'] :: segments.map ('/' :: ·)
  | .doubleSlash, segments => ['/', '/'] :: segments.map ('/' :: ·)

/-- A bare root is its own anchor. -/
lemma spelling_mem_anchors {path : FilePath} (hsegments : path.segments = [])
    (hcurrent : path ≠ ⟨.none, []⟩) : path.spelling 0 ∈ path.anchors := by
  obtain ⟨root, segments⟩ := path
  obtain rfl : segments = [] := hsegments
  cases root with
  | none => exact absurd rfl hcurrent
  | slash => exact List.mem_cons_self
  | doubleSlash => exact List.mem_cons_self

/-! ## Anchors occur in every spelling -/

/-- The first piece of a text stands in front, the others behind a slash. -/
lemma isInfix_of_pieces {s first : List Char} {others : List (List Char)}
    (h : pieces '/' s = first :: others) :
    first <+: s ∧ ∀ piece ∈ others, '/' :: piece <:+: s := by
  induction s generalizing first others with
  | nil =>
      obtain ⟨rfl, rfl⟩ := List.cons.inj h
      exact ⟨List.nil_prefix, fun _ hp => absurd hp List.not_mem_nil⟩
  | cons c s ih =>
      obtain ⟨first', others', hs⟩ := List.exists_cons_of_ne_nil (pieces_ne_nil '/' s)
      obtain ⟨hfirst, hothers⟩ := ih hs
      by_cases hc : c = '/'
      · subst hc
        rw [pieces, if_pos (by simp), hs] at h
        obtain ⟨rfl, rfl⟩ := List.cons.inj h
        refine ⟨List.nil_prefix, ?_⟩
        intro piece hp
        rcases List.mem_cons.1 hp with rfl | hp
        · exact (List.cons_prefix_cons.2 ⟨rfl, hfirst⟩).isInfix
        · exact List.infix_cons (hothers piece hp)
      · rw [pieces_cons_of_ne hc hs] at h
        obtain ⟨rfl, rfl⟩ := List.cons.inj h
        exact ⟨List.cons_prefix_cons.2 ⟨rfl, hfirst⟩,
          fun piece hp => List.infix_cons (hothers piece hp)⟩

/-- Behind the first piece, segments have a slash before them. -/
lemma isInfix_of_mem_tail {s first : List Char} {rest : List (List Char)}
    (h : first :: rest <+: segmentsOf s) :
    first <:+: s ∧ ∀ segment ∈ rest, '/' :: segment <:+: s := by
  obtain ⟨piece, others, hs⟩ := List.exists_cons_of_ne_nil (pieces_ne_nil '/' s)
  obtain ⟨hpiece, hothers⟩ := isInfix_of_pieces hs
  rw [segmentsOf, hs] at h
  have hmem : ∀ segment ∈ others.filter isSegment, '/' :: segment <:+: s :=
    fun segment hseg => hothers segment (List.mem_of_mem_filter hseg)
  by_cases hp : isSegment piece = true
  · rw [List.filter_cons_of_pos hp] at h
    obtain ⟨rfl, hrest⟩ := List.cons_prefix_cons.1 h
    exact ⟨hpiece.isInfix, fun segment hseg => hmem segment (hrest.subset hseg)⟩
  · rw [List.filter_cons_of_neg hp] at h
    refine ⟨(List.suffix_cons '/' first).isInfix.trans
      (hmem first (h.subset List.mem_cons_self)), ?_⟩
    exact fun segment hseg => hmem segment (h.subset (List.mem_cons_of_mem _ hseg))

/-- Behind a slash in front, every segment has a slash before it. -/
lemma isInfix_of_mem_segmentsOf {t segment : List Char} (h : segment ∈ segmentsOf ('/' :: t)) :
    '/' :: segment <:+: '/' :: t := by
  have hs : pieces '/' ('/' :: t) = [] :: pieces '/' t := by rw [pieces, if_pos (by simp)]
  rw [segmentsOf, hs, List.filter_cons_of_neg (by decide)] at h
  exact (isInfix_of_pieces hs).2 segment (List.mem_of_mem_filter h)

/-- A root is a slash in front. -/
lemma exists_of_rootOf_ne_none {s : List Char} (h : rootOf s ≠ .none) : ∃ t, s = '/' :: t := by
  by_contra hnone
  refine h (rootOf_of_head? ?_)
  intro hhead
  obtain ⟨t, ht⟩ := List.head?_eq_some_iff.1 hhead
  exact hnone ⟨t, ht⟩

/-- The root `//` is two slashes in front. -/
lemma exists_of_rootOf_eq_doubleSlash {s : List Char} (h : rootOf s = .doubleSlash) :
    ∃ t, s = '/' :: '/' :: t := by
  obtain ⟨t, rfl⟩ := exists_of_rootOf_ne_none (s := s) (by rw [h]; decide)
  by_contra hnone
  have hslash : rootOf ('/' :: t) = .slash := by
    refine rootOf_cons ?_
    intro hhead
    obtain ⟨u, rfl⟩ := List.head?_eq_some_iff.1 hhead
    exact hnone ⟨u, rfl⟩
  rw [hslash] at h
  contradiction

/-- **The anchors of a path occur in every spelling of what lies under it.** -/
theorem isInfix_of_mem_anchors {s anchor : List Char} {folder : FilePath}
    (hunder : (ofText s).isUnder folder = true) (h : anchor ∈ folder.anchors) : anchor <:+: s := by
  obtain ⟨root, segments⟩ := folder
  rw [isUnder, Bool.and_eq_true, decide_eq_true_iff, List.isPrefixOf_iff_prefix, ofText_root,
    ofText_segments] at hunder
  obtain ⟨rfl, hsegments⟩ := hunder
  cases hroot : rootOf s with
  | none =>
      cases segments with
      | nil => rw [anchors, hroot] at h; exact absurd h List.not_mem_nil
      | cons first rest =>
          obtain ⟨hfirst, hrest⟩ := isInfix_of_mem_tail hsegments
          rw [anchors, hroot] at h
          rcases List.mem_cons.1 h with rfl | h
          · exact hfirst
          · obtain ⟨segment, hseg, rfl⟩ := List.mem_map.1 h
            exact hrest segment hseg
  | slash =>
      obtain ⟨t, rfl⟩ := exists_of_rootOf_ne_none (s := s) (by rw [hroot]; decide)
      rw [anchors, hroot] at h
      rcases List.mem_cons.1 h with rfl | h
      · exact ⟨[], t, rfl⟩
      · obtain ⟨segment, hseg, rfl⟩ := List.mem_map.1 h
        exact isInfix_of_mem_segmentsOf (hsegments.subset hseg)
  | doubleSlash =>
      obtain ⟨t, rfl⟩ := exists_of_rootOf_eq_doubleSlash hroot
      rw [anchors, hroot] at h
      rcases List.mem_cons.1 h with rfl | h
      · exact ⟨[], t, rfl⟩
      · obtain ⟨segment, hseg, rfl⟩ := List.mem_map.1 h
        exact isInfix_of_mem_segmentsOf (hsegments.subset hseg)

/-! ## Plain spellings -/

/-- **The plain spelling** of the path that a text denotes. -/
def plain (s : List Char) : List Char := (ofText s).spelling 0

lemma plain_eq {s : List Char} {root : Root} {segments : List (List Char)}
    (hroot : rootOf s = root) (hsegments : segmentsOf s = segments) :
    plain s = root.spelling 0 ++ ['/'].intercalate segments := by
  subst hroot hsegments
  rfl

lemma ofText_plain (s : List Char) : ofText (plain s) = ofText s :=
  ofText_spelling 0 (wellFormed_ofText s)

/-- A text without a slash is plain unless it is `.`. -/
lemma plain_isPrefix_of_not_mem {t : List Char} (h : '/' ∉ t) : plain t <+: t := by
  have hroot : rootOf t = .none := rootOf_of_head? fun hhead => h (List.mem_of_head? hhead)
  rcases segmentsOf_of_not_mem h with hseg | hseg
  · rw [plain_eq hroot hseg, List.intercalate_singleton]
    exact List.prefix_rfl
  · rw [plain_eq hroot hseg, List.intercalate_nil]
    exact List.nil_prefix

/-- A gap in front becomes one slash. -/
lemma plain_gap_append (k : Nat) {t : List Char} (h : '/' ∉ t) :
    plain (gap k ++ t) = '/' :: plain t := by
  have hhead : t.head? ≠ some '/' := fun hhead => h (List.mem_of_head? hhead)
  have hseg : segmentsOf (gap k ++ t) = segmentsOf t := segmentsOf_gap k [] t
  rw [plain_eq (rootOf_gap k hhead) hseg, plain_eq (rootOf_of_head? hhead) rfl]
  rfl

/-- A gap that has lost its slash in front becomes nothing. -/
lemma plain_dot_gap_append (k : Nat) {t : List Char} (h : '/' ∉ t) :
    plain ('.' :: gap k ++ t) = plain t := by
  have hhead : t.head? ≠ some '/' := fun hhead => h (List.mem_of_head? hhead)
  have hseg : segmentsOf ('.' :: gap k ++ t) = segmentsOf t := segmentsOf_gap k ['.'] t
  rw [plain_eq (rootOf_of_head? (by simp)) hseg, plain_eq (rootOf_of_head? hhead) rfl]

/-! ## Parts of gaps -/

/-- The end of a gap is a gap again, perhaps without its slash in front. -/
lemma suffix_gap {u : List Char} {k : Nat} (h : u <:+ gap k) :
    u = [] ∨ ∃ j, u = gap j ∨ u = '.' :: gap j := by
  induction k with
  | zero =>
      rcases List.suffix_cons_iff.1 h with rfl | h
      · exact Or.inr ⟨0, Or.inl rfl⟩
      · exact Or.inl (List.suffix_nil.1 h)
  | succ k ih =>
      rcases List.suffix_cons_iff.1 h with rfl | h
      · exact Or.inr ⟨k + 1, Or.inl rfl⟩
      · rcases List.suffix_cons_iff.1 h with rfl | h
        · exact Or.inr ⟨k, Or.inr rfl⟩
        · exact ih h

/-- The front of a gap is a slash with no segment and no slash behind it. -/
lemma prefix_gap {v : List Char} {k : Nat} (h : v <+: gap k) :
    v = [] ∨ ∃ z, v = '/' :: z ∧ z.head? ≠ some '/' ∧ segmentsOf z = [] := by
  induction k generalizing v with
  | zero =>
      rcases List.prefix_cons_iff.1 h with rfl | ⟨z, rfl, hz⟩
      · exact Or.inl rfl
      · rw [List.prefix_nil.1 hz]
        exact Or.inr ⟨[], rfl, by simp, rfl⟩
  | succ k ih =>
      rcases List.prefix_cons_iff.1 h with rfl | ⟨z, rfl, hz⟩
      · exact Or.inl rfl
      refine Or.inr ⟨z, rfl, ?_⟩
      rcases List.prefix_cons_iff.1 hz with rfl | ⟨y, rfl, hy⟩
      · exact ⟨by simp, rfl⟩
      refine ⟨by simp, ?_⟩
      rcases ih hy with rfl | ⟨x, rfl, -, hx⟩
      · decide
      · rw [segmentsOf_dot_cons, hx]

/-- The front of a gap denotes the root. -/
lemma plain_isInfix_of_prefix_gap {v : List Char} {k : Nat} (h : v <+: gap k) :
    plain v <:+: ['/'] := by
  rcases prefix_gap h with rfl | ⟨z, rfl, hhead, hz⟩
  · exact List.nil_infix
  · rw [plain_eq (rootOf_cons hhead) ((segmentsOf_slash_cons z).trans hz)]
    exact List.infix_rfl

/-- **A part of a gap denotes the root or nothing.** -/
lemma plain_isInfix_of_isInfix_gap {w : List Char} {k : Nat} (h : w <:+: gap k) :
    plain w <:+: ['/'] := by
  obtain ⟨t, hw, ht⟩ := List.infix_iff_prefix_suffix.1 h
  rcases suffix_gap ht with rfl | ⟨j, rfl | rfl⟩
  · rw [List.prefix_nil.1 hw]
    exact List.nil_infix
  · exact plain_isInfix_of_prefix_gap hw
  · rcases List.prefix_cons_iff.1 hw with rfl | ⟨v, rfl, hv⟩
    · exact List.nil_infix
    · rcases prefix_gap hv with rfl | ⟨z, rfl, -, hz⟩
      · exact List.nil_infix
      · rw [plain_eq (rootOf_of_head? (by simp)) ((segmentsOf_dot_cons z).trans hz)]
        exact List.nil_infix

/-- **The front of a gap behind a text changes nothing** unless the text is slashes only. -/
lemma plain_append_of_prefix_gap {u v : List Char} {k : Nat} (hu : ∃ c ∈ u, c ≠ '/')
    (hv : v <+: gap k) : plain (u ++ v) = plain u := by
  obtain ⟨c, hc, hne⟩ := hu
  have hroot : rootOf (u ++ v) = rootOf u := by
    have hlen : (u.takeWhile (· == '/')).length ≠ u.length := by
      intro heq
      have hall := List.takeWhile_eq_self_iff.1
        ((List.takeWhile_prefix _).eq_of_length heq) c hc
      exact hne (by simpa using hall)
    rw [rootOf, List.takeWhile_append, if_neg hlen]
    rfl
  have hseg : segmentsOf (u ++ v) = segmentsOf u := by
    rcases prefix_gap hv with rfl | ⟨z, rfl, -, hz⟩
    · rw [List.append_nil]
    · rw [segmentsOf_append, hz, List.append_nil]
  rw [plain_eq hroot hseg, plain_eq rfl rfl]

/-! ## Windows -/

variable {w s : List Char} {k : Nat}

/-- A word at most as long as the middle part touches only one of the outer parts. -/
lemma isInfix_or_isInfix_of_length_le {x y z : List Char} (h : w <:+: x ++ y ++ z)
    (hlen : w.length ≤ y.length) : w <:+: x ++ y ∨ w <:+: y ++ z := by
  rcases List.infix_append_iff.1 h with h | h | ⟨u, v, rfl, hu, hv⟩
  · exact Or.inl h
  · exact Or.inr (h.trans (List.suffix_append y z).isInfix)
  · have hsuffix : u <:+ y :=
      List.suffix_of_suffix_length_le hu (List.suffix_append x y) (by
        rw [List.length_append] at hlen
        omega)
    exact Or.inr (List.infix_append_iff.2 (Or.inr (Or.inr ⟨u, v, rfl, hsuffix, hv⟩)))

/-- A word in segments behind gaps has a window around one segment. -/
lemma exists_window {segments : List (List Char)} (hne : segments ≠ [])
    (h : w <:+: gap k ++ (gap k).intercalate segments) (hlen : w.length ≤ (gap k).length) :
    ∃ segment ∈ segments, w <:+: gap k ++ segment ++ gap k := by
  induction segments with
  | nil => exact absurd rfl hne
  | cons first rest ih =>
      cases rest with
      | nil =>
          rw [List.intercalate_singleton] at h
          exact ⟨first, List.mem_cons_self, h.trans (List.prefix_append _ _).isInfix⟩
      | cons second rest =>
          rw [List.intercalate_cons_cons, ← List.append_assoc, ← List.append_assoc] at h
          rw [List.append_assoc (gap k ++ first)] at h
          rcases isInfix_or_isInfix_of_length_le (x := gap k ++ first) (y := gap k)
            (by rw [List.append_assoc]; exact h) hlen with h | h
          · exact ⟨first, List.mem_cons_self, h⟩
          · obtain ⟨segment, hseg, hw⟩ := ih (by simp) h
            exact ⟨segment, List.mem_cons_of_mem _ hseg, hw⟩

/-- A word in a gap and a segment behind it denotes a part of the segment, with a slash in front
at most. -/
lemma plain_isInfix_of_gap_append (hs : IsSegment s) (h : w <:+: gap k ++ s) :
    plain w <:+: '/' :: s := by
  have hslash : ∀ t, t <:+: s → '/' ∉ t := fun t ht hmem => hs.slash (ht.subset hmem)
  rcases List.infix_append_iff.1 h with h | h | ⟨u, t, rfl, hu, ht⟩
  · exact (plain_isInfix_of_isInfix_gap h).trans ⟨[], s, rfl⟩
  · exact (plain_isPrefix_of_not_mem (hslash w h)).isInfix.trans (List.infix_cons h)
  · have ht' := hslash t ht.isInfix
    have hplain : plain t <+: s := (plain_isPrefix_of_not_mem ht').trans ht
    rcases suffix_gap hu with rfl | ⟨j, rfl | rfl⟩
    · exact List.infix_cons hplain.isInfix
    · rw [plain_gap_append j ht']
      exact (List.cons_prefix_cons.2 ⟨rfl, hplain⟩).isInfix
    · rw [plain_dot_gap_append j ht']
      exact List.infix_cons hplain.isInfix

/-- The end of a text that ends in a segment has more than slashes, if it has anything. -/
lemma exists_ne_slash_of_suffix {x u : List Char} (hs : IsSegment s) (h : u <:+ x ++ s)
    (hu : u ≠ []) : ∃ c ∈ u, c ≠ '/' := by
  have hlast : u.getLast hu = s.getLast hs.ne_nil :=
    (h.getLast hu).trans ((List.suffix_append x s).getLast hs.ne_nil).symm
  refine ⟨u.getLast hu, List.getLast_mem hu, ?_⟩
  rw [hlast]
  intro heq
  exact hs.slash (heq ▸ List.getLast_mem hs.ne_nil)

/-- **A word in the window of a segment** denotes a part of the segment, with a slash in front at
most. -/
theorem plain_isInfix_of_window (hs : IsSegment s) (h : w <:+: gap k ++ s ++ gap k) :
    plain w <:+: '/' :: s := by
  rcases List.infix_append_iff.1 h with h | h | ⟨u, v, rfl, hu, hv⟩
  · exact plain_isInfix_of_gap_append hs h
  · exact (plain_isInfix_of_isInfix_gap h).trans ⟨[], s, rfl⟩
  · by_cases hnil : u = []
    · subst hnil
      exact (plain_isInfix_of_isInfix_gap hv.isInfix).trans ⟨[], s, rfl⟩
    · rw [plain_append_of_prefix_gap (exists_ne_slash_of_suffix hs hu hnil) hv]
      exact plain_isInfix_of_gap_append hs hu.isInfix

/-- A word in a first segment and the gap behind it denotes a part of the segment, or the root. -/
lemma plain_isInfix_of_append_gap (hs : IsSegment s) (h : w <:+: s ++ gap k) :
    plain w <:+: s ∨ plain w <:+: ['/'] := by
  have hslash : ∀ t, t <:+: s → '/' ∉ t := fun t ht hmem => hs.slash (ht.subset hmem)
  rcases List.infix_append_iff.1 h with h | h | ⟨u, v, rfl, hu, hv⟩
  · exact Or.inl ((plain_isPrefix_of_not_mem (hslash w h)).isInfix.trans h)
  · exact Or.inr (plain_isInfix_of_isInfix_gap h)
  · by_cases hnil : u = []
    · subst hnil
      exact Or.inr (plain_isInfix_of_isInfix_gap hv.isInfix)
    · rw [plain_append_of_prefix_gap (exists_ne_slash_of_suffix (x := []) hs hu hnil) hv]
      exact Or.inl ((plain_isPrefix_of_not_mem (hslash u hu.isInfix)).isInfix.trans hu.isInfix)

/-- A word in the gap behind the root `//` denotes a root. -/
lemma plain_isInfix_of_doubleSlash (h : w <:+: '/' :: gap k) : plain w <:+: ['/', '/'] := by
  rcases List.infix_cons_iff.1 h with h | h
  · rcases List.prefix_cons_iff.1 h with rfl | ⟨v, rfl, hv⟩
    · exact List.nil_infix
    rcases prefix_gap hv with rfl | ⟨z, rfl, hhead, hz⟩
    · exact ⟨[], ['/'], rfl⟩
    · have hseg : segmentsOf ('/' :: '/' :: z) = [] := by
        rw [segmentsOf_slash_cons, segmentsOf_slash_cons, hz]
      rw [plain_eq (rootOf_cons_cons hhead) hseg]
      exact List.infix_rfl
  · exact (plain_isInfix_of_isInfix_gap h).trans ⟨[], ['/'], rfl⟩

/-- **What occurs in a spelling with wide gaps occurs in an anchor**, spelled plainly. -/
theorem plain_isInfix_anchor {path : FilePath} (hpath : path.WellFormed)
    (hne : path.segments ≠ []) (h : w <:+: path.spelling k) (hlen : w.length ≤ (gap k).length) :
    ∃ anchor ∈ path.anchors, plain w <:+: anchor := by
  obtain ⟨root, segments⟩ := path
  have hwindow : ∀ part ≠ [], (∀ segment ∈ part, segment ∈ segments) →
      w <:+: gap k ++ (gap k).intercalate part →
      ∃ segment ∈ part, plain w <:+: '/' :: segment := by
    intro part hpart hsub hw
    obtain ⟨segment, hseg, hw⟩ := exists_window hpart hw hlen
    exact ⟨segment, hseg, plain_isInfix_of_window (hpath segment (hsub segment hseg)) hw⟩
  cases root with
  | none =>
      -- the first segment has no gap before it, and so a window of its own
      obtain ⟨first, rest, rfl⟩ := List.exists_cons_of_ne_nil hne
      have hfirst : IsSegment first := hpath first List.mem_cons_self
      cases rest with
      | nil =>
          have hw : w <:+: (gap k).intercalate [first] := h
          rw [List.intercalate_singleton] at hw
          have hslash : '/' ∉ w := fun hmem => hfirst.slash (hw.subset hmem)
          exact ⟨first, List.mem_cons_self, (plain_isPrefix_of_not_mem hslash).isInfix.trans hw⟩
      | cons second rest =>
          have h : w <:+: first ++ gap k ++ (gap k).intercalate (second :: rest) := by
            rw [← List.intercalate_cons_cons]
            exact h
          rcases isInfix_or_isInfix_of_length_le h hlen with h | h
          · rcases plain_isInfix_of_append_gap hfirst h with h | h
            · exact ⟨first, List.mem_cons_self, h⟩
            · exact ⟨'/' :: second, List.mem_cons_of_mem _ List.mem_cons_self,
                h.trans ⟨[], second, rfl⟩⟩
          · obtain ⟨segment, hseg, hw⟩ := hwindow (second :: rest) (by simp)
              (fun _ hmem => List.mem_cons_of_mem _ hmem) h
            exact ⟨_, List.mem_cons_of_mem _ (List.mem_map_of_mem hseg), hw⟩
  | slash =>
      obtain ⟨segment, hseg, hw⟩ := hwindow segments hne (fun _ hmem => hmem) h
      exact ⟨_, List.mem_cons_of_mem _ (List.mem_map_of_mem hseg), hw⟩
  | doubleSlash =>
      have h : w <:+: ['/'] ++ gap k ++ (gap k).intercalate segments := h
      rcases isInfix_or_isInfix_of_length_le h hlen with h | h
      · exact ⟨_, List.mem_cons_self, plain_isInfix_of_doubleSlash h⟩
      · obtain ⟨segment, hseg, hw⟩ := hwindow segments hne (fun _ hmem => hmem) h
        exact ⟨_, List.mem_cons_of_mem _ (List.mem_map_of_mem hseg), hw⟩

end ContainerClients.FilePath
