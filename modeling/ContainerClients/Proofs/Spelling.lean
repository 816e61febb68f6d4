import Mathlib.Data.List.Infix
import ContainerClients.FilePath

/-!
# The spellings of a file path

A file path is a root and segments; many texts spell the same path.  Between two segments, and
behind the root, a spelling may repeat slashes and put in `.` segments.

* `segmentsOf`, `rootOf` — the two parts of the path of a text, with their laws.
* `gap` — `/././` with any number of dots, which separates segments like a slash.
* `FilePath.spelling` — a family of spellings of a path; `spelling 0` is the plain one.
* `ofText_spelling` — each of them spells its path.
* `spelling_prefix_of_isUnder` — what lies under a folder has the folder's spelling in front.
-/

namespace ContainerClients.FilePath

open ContainerClients.Text

/-! ## Pieces and segments -/

/-- The segments of a text. -/
def segmentsOf (s : List Char) : List (List Char) := (pieces '/' s).filter isSegment

lemma ofText_segments (s : List Char) : (ofText s).segments = segmentsOf s := rfl

lemma segmentsOf_append (s t : List Char) :
    segmentsOf (s ++ '/' :: t) = segmentsOf s ++ segmentsOf t := by
  rw [segmentsOf, pieces_append, List.filter_append]
  rfl

/-- A slash in front is no segment. -/
lemma segmentsOf_slash_cons (t : List Char) : segmentsOf ('/' :: t) = segmentsOf t :=
  segmentsOf_append [] t

/-- Nor is `./` in front. -/
lemma segmentsOf_dot_cons (t : List Char) : segmentsOf ('.' :: '/' :: t) = segmentsOf t :=
  segmentsOf_append ['.'] t

/-- What is neither empty nor `.`, and holds no slash, is a segment. -/
structure IsSegment (s : List Char) : Prop where
  /-- it counts as a segment -/
  counts : isSegment s = true
  /-- it is a single piece -/
  slash : '/' ∉ s

lemma IsSegment.ne_nil {s : List Char} (h : IsSegment s) : s ≠ [] := by
  rintro rfl
  exact absurd h.counts (by decide)

lemma IsSegment.segmentsOf_eq {s : List Char} (h : IsSegment s) : segmentsOf s = [s] := by
  rw [segmentsOf, pieces_of_not_mem h.slash, List.filter_cons_of_pos h.counts, List.filter_nil]

/-- A text without a slash is a segment or has none. -/
lemma segmentsOf_of_not_mem {s : List Char} (h : '/' ∉ s) :
    segmentsOf s = [s] ∨ segmentsOf s = [] := by
  rw [segmentsOf, pieces_of_not_mem h]
  by_cases hs : isSegment s = true
  · exact Or.inl (by rw [List.filter_cons_of_pos hs, List.filter_nil])
  · exact Or.inr (by rw [List.filter_cons_of_neg hs, List.filter_nil])

lemma isSegment_of_mem_segmentsOf {s segment : List Char} (h : segment ∈ segmentsOf s) :
    IsSegment segment :=
  ⟨(List.mem_filter.1 h).2, not_mem_of_mem_pieces (List.mem_filter.1 h).1⟩

/-! ## The root of a text -/

/-- The root that a text starts with. -/
def rootOf (s : List Char) : Root := .ofCount (s.takeWhile (· == '/')).length

lemma ofText_root (s : List Char) : (ofText s).root = rootOf s := rfl

/-- Without a slash in front there is no root. -/
lemma rootOf_of_head? {s : List Char} (h : s.head? ≠ some '/') : rootOf s = .none := by
  cases s with
  | nil => rfl
  | cons c rest =>
      have hc : (c == '/') = false := by simpa using h
      rw [rootOf, List.takeWhile_cons, hc]
      rfl

/-- A single slash in front is the plain root. -/
lemma rootOf_cons {s : List Char} (h : s.head? ≠ some '/') : rootOf ('/' :: s) = .slash := by
  cases s with
  | nil => rfl
  | cons c rest =>
      have hc : (c == '/') = false := by simpa using h
      rw [rootOf, List.takeWhile_cons, if_pos (by decide), List.takeWhile_cons, hc]
      rfl

/-- Exactly two slashes in front are a root of their own. -/
lemma rootOf_cons_cons {s : List Char} (h : s.head? ≠ some '/') :
    rootOf ('/' :: '/' :: s) = .doubleSlash := by
  cases s with
  | nil => rfl
  | cons c rest =>
      have hc : (c == '/') = false := by simpa using h
      rw [rootOf, List.takeWhile_cons, if_pos (by decide), List.takeWhile_cons, if_pos (by decide),
        List.takeWhile_cons, hc]
      rfl

/-! ## Spellings -/

/-- A slash, and `./` behind it any number of times. -/
def gap : Nat → List Char
  | 0 => ['/']
  | k + 1 => '/' :: '.' :: gap k

lemma le_length_gap (k : Nat) : k ≤ (gap k).length := by
  induction k with
  | zero => exact Nat.zero_le _
  | succ k ih =>
      rw [gap, List.length_cons, List.length_cons]
      omega

/-- **A gap separates segments** and holds none. -/
lemma segmentsOf_gap (k : Nat) (s t : List Char) :
    segmentsOf (s ++ gap k ++ t) = segmentsOf s ++ segmentsOf t := by
  induction k generalizing s with
  | zero =>
      rw [gap, List.append_assoc, List.singleton_append, segmentsOf_append]
  | succ k ih =>
      have hdot : segmentsOf ('.' :: gap k ++ t) = segmentsOf t := ih ['.']
      rw [gap, List.append_assoc, List.cons_append, segmentsOf_append, hdot]

/-- How a root is spelled in front of segments. -/
def Root.spelling (k : Nat) : Root → List Char
  | .none => []
  | .slash => gap k
  | .doubleSlash => '/' :: gap k

/-- **A spelling of a path**, with `k` dots in each gap. -/
def spelling (k : Nat) (path : FilePath) : List Char :=
  path.root.spelling k ++ (gap k).intercalate path.segments

/-- All segments of the path are segments. -/
def WellFormed (path : FilePath) : Prop := ∀ segment ∈ path.segments, IsSegment segment

lemma wellFormed_ofText (s : List Char) : (ofText s).WellFormed :=
  fun _ h => isSegment_of_mem_segmentsOf h

lemma IsSegment.head?_append {s : List Char} (h : IsSegment s) (t : List Char) :
    (s ++ t).head? ≠ some '/' := by
  obtain ⟨c, rest, rfl⟩ := List.exists_cons_of_ne_nil h.ne_nil
  intro hc
  exact h.slash (by rw [Option.some.inj hc]; exact List.mem_cons_self)

/-- Segments put together with gaps are still these segments. -/
lemma segmentsOf_intercalate (k : Nat) {segments : List (List Char)}
    (h : ∀ segment ∈ segments, IsSegment segment) :
    segmentsOf ((gap k).intercalate segments) = segments := by
  induction segments with
  | nil => rfl
  | cons first rest ih =>
      have hfirst := (h first List.mem_cons_self).segmentsOf_eq
      cases rest with
      | nil => rw [List.intercalate_singleton, hfirst]
      | cons second rest =>
          rw [List.intercalate_cons_cons, segmentsOf_gap, hfirst,
            ih fun segment hs => h segment (List.mem_cons_of_mem _ hs)]
          rfl

/-- Segments put together start with no slash. -/
lemma head?_intercalate (k : Nat) {segments : List (List Char)}
    (h : ∀ segment ∈ segments, IsSegment segment) :
    ((gap k).intercalate segments).head? ≠ some '/' := by
  cases segments with
  | nil => simp
  | cons first rest =>
      have hfirst := h first List.mem_cons_self
      cases rest with
      | nil =>
          rw [List.intercalate_singleton, ← List.append_nil first]
          exact hfirst.head?_append []
      | cons second rest =>
          rw [List.intercalate_cons_cons, List.append_assoc]
          exact hfirst.head?_append _

/-- A gap in front of anything but a slash is the plain root. -/
lemma rootOf_gap (k : Nat) {s : List Char} (h : s.head? ≠ some '/') :
    rootOf (gap k ++ s) = .slash := by
  cases k with
  | zero => exact rootOf_cons h
  | succ k => exact rootOf_cons (by simp)

lemma rootOf_cons_gap (k : Nat) {s : List Char} (h : s.head? ≠ some '/') :
    rootOf ('/' :: gap k ++ s) = .doubleSlash := by
  cases k with
  | zero => exact rootOf_cons_cons h
  | succ k => exact rootOf_cons_cons (by simp)

/-- **A spelling of a path spells that path.** -/
theorem ofText_spelling (k : Nat) {path : FilePath} (h : path.WellFormed) :
    ofText (path.spelling k) = path := by
  obtain ⟨root, segments⟩ := path
  have hhead := head?_intercalate k h
  have hsegments := segmentsOf_intercalate k h
  have hroot : rootOf ((⟨root, segments⟩ : FilePath).spelling k) = root
      ∧ segmentsOf ((⟨root, segments⟩ : FilePath).spelling k) = segments := by
    cases root with
    | none => exact ⟨rootOf_of_head? hhead, hsegments⟩
    | slash => exact ⟨rootOf_gap k hhead, (segmentsOf_gap k [] _).trans hsegments⟩
    | doubleSlash =>
        refine ⟨rootOf_cons_gap k hhead, ?_⟩
        exact (segmentsOf_gap k ['/'] _).trans hsegments
  rw [FilePath.mk.injEq]
  exact hroot

/-! ## Spellings of what lies under a path -/

lemma intercalate_isPrefix (sep : List Char) {xs ys : List (List Char)} (h : xs <+: ys) :
    sep.intercalate xs <+: sep.intercalate ys := by
  obtain ⟨zs, rfl⟩ := h
  by_cases hxs : xs = []
  · rw [hxs]
    exact List.nil_prefix
  · by_cases hzs : zs = []
    · rw [hzs, List.append_nil]
    · rw [intercalate_append hxs hzs, List.append_assoc]
      exact List.prefix_append _ _

/-- **What lies under a folder is spelled with the folder's spelling in front.** -/
theorem spelling_prefix_of_isUnder (k : Nat) {path folder : FilePath}
    (h : path.isUnder folder = true) : folder.spelling k <+: path.spelling k := by
  rw [isUnder, Bool.and_eq_true, decide_eq_true_iff, List.isPrefixOf_iff_prefix] at h
  obtain ⟨hroot, hsegments⟩ := h
  rw [spelling, spelling, hroot]
  exact (List.prefix_append_right_inj _).2 (intercalate_isPrefix (gap k) hsegments)

end ContainerClients.FilePath
