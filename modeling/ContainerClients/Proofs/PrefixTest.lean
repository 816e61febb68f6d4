import Mathlib.Logic.Relation
import ContainerClients.Proofs.Coverage

/-!
# Covering is a prefix test that ends at a slash

A mount covers a path when its segments are in front of those of the path.  For paths that are
written without anything superfluous this can be read off the texts: the host root is the path, or
stands in front of it with a slash behind it.  So `/a/projectile` does not lie under `/a/project`.

Paths need not be written so.  Repeated slashes, and `.` between slashes, are no segments, and
putting them in makes no difference anywhere but at the root: two slashes in front are a root of
their own.

* `IsPlainPath` — one slash in front, then segments with a slash between each two.
* `isPrefix_iff_of_segments` — prefixes of segments, and of the text that they make.
* `Respelled` — a slash behind the first one becomes `//` or `/./`, or `/` or `/.` comes to the end.
* `IsBelowRoot.respelled`, `IsBelowRoot.respelledAll` — this leads to the same path, however often.
* **`covers_iff_isPrefix`** — the prefix test, and that other spellings are covered alike.
-/

namespace ContainerClients

open ContainerClients.Text

namespace FilePath

/-! ## Plain paths -/

/-- **A plain path from the root**: the root itself, or one slash and behind it segments with a
slash between each two. -/
def IsPlainPath (s : List Char) : Prop :=
  s = ['/'] ∨ ∃ rest, s = '/' :: rest ∧ ∀ piece ∈ pieces '/' rest, isSegment piece = true

/-- A plain path is made of its segments. -/
lemma IsPlainPath.exists_segments {s : List Char} (h : IsPlainPath s) :
    ∃ segments, (∀ segment ∈ segments, IsSegment segment)
      ∧ s = '/' :: ['/'].intercalate segments := by
  rcases h with rfl | ⟨rest, rfl, hpieces⟩
  · exact ⟨[], fun _ hs => absurd hs List.not_mem_nil, rfl⟩
  · refine ⟨pieces '/' rest, fun piece hp => ⟨hpieces piece hp, not_mem_of_mem_pieces hp⟩, ?_⟩
    rw [intercalate_pieces]

/-- What segments make is a path with these segments. -/
lemma ofText_slash_intercalate {segments : List (List Char)}
    (h : ∀ segment ∈ segments, IsSegment segment) :
    ofText ('/' :: ['/'].intercalate segments) = ⟨.slash, segments⟩ := by
  have hpath : FilePath.WellFormed ⟨.slash, segments⟩ := h
  exact ofText_spelling 0 hpath

/-- **Segments are in front of others** when the text that they make is the other text, or is in
front of it with a slash behind it, or when there are none. -/
lemma isPrefix_iff_of_segments {xs ys : List (List Char)} (hxs : ∀ x ∈ xs, IsSegment x)
    (hys : ∀ y ∈ ys, IsSegment y) :
    xs <+: ys ↔ xs = [] ∨ ['/'].intercalate ys = ['/'].intercalate xs
      ∨ ['/'].intercalate xs ++ ['/'] <+: ['/'].intercalate ys := by
  constructor
  · rintro ⟨zs, rfl⟩
    by_cases hnil : xs = []
    · exact .inl hnil
    · by_cases hmore : zs = []
      · exact .inr (.inl (by rw [hmore, List.append_nil]))
      · refine .inr (.inr ?_)
        rw [intercalate_append hnil hmore]
        exact List.prefix_append _ _
  · -- the segments can be read off both texts again
    have hread := segmentsOf_intercalate 0 hxs
    have hread' := segmentsOf_intercalate 0 hys
    rw [gap] at hread hread'
    rintro (rfl | heq | ⟨rest, hrest⟩)
    · exact List.nil_prefix
    · rw [← hread, ← hread', heq]
    · rw [← hrest, List.append_assoc, List.singleton_append, segmentsOf_append, hread] at hread'
      rw [← hread']
      exact List.prefix_append _ _

/-- **What lies under a plain folder has its text in front**, up to the end or to a slash. -/
lemma isUnder_iff_of_isPlainPath {path folder : List Char} (hpath : IsPlainPath path)
    (hfolder : IsPlainPath folder) :
    (ofText path).isUnder (ofText folder) = true
      ↔ folder = ['/'] ∨ path = folder ∨ folder ++ ['/'] <+: path := by
  obtain ⟨ys, hys, rfl⟩ := hpath.exists_segments
  obtain ⟨xs, hxs, rfl⟩ := hfolder.exists_segments
  have hbare : '/' :: ['/'].intercalate xs = ['/'] ↔ xs = [] := by
    constructor
    · intro h
      have hread := segmentsOf_intercalate 0 hxs
      rw [gap, (List.cons.inj h).2] at hread
      exact hread.symm
    · rintro rfl
      rfl
  rw [ofText_slash_intercalate hys, ofText_slash_intercalate hxs, isUnder, Bool.and_eq_true,
    decide_eq_true_iff, List.isPrefixOf_iff_prefix, isPrefix_iff_of_segments hxs hys, hbare,
    List.cons_append, List.cons_prefix_cons, List.cons.injEq]
  simp only [true_and]

/-! ## Other spellings -/

/-- **A text with one slash in front, and more behind it.** -/
def IsBelowRoot (s : List Char) : Prop := ∃ c rest, s = '/' :: c :: rest ∧ c ≠ '/'

/-- **The same path, spelled with more**: a slash behind the first one is repeated, or has `./`
behind it, or there is a slash at the end, or a slash and a dot. -/
inductive Respelled : List Char → List Char → Prop where
  /-- a slash is repeated -/
  | slash (front back : List Char) : front ≠ [] →
      Respelled (front ++ '/' :: back) (front ++ '/' :: '/' :: back)
  /-- there is a dot between two slashes -/
  | dot (front back : List Char) : front ≠ [] →
      Respelled (front ++ '/' :: back) (front ++ '/' :: '.' :: '/' :: back)
  /-- there is a slash at the end -/
  | slashBehind (s : List Char) : Respelled s (s ++ ['/'])
  /-- there is a slash and a dot at the end -/
  | dotBehind (s : List Char) : Respelled s (s ++ ['/', '.'])

variable {s t : List Char}

lemma IsBelowRoot.rootOf_eq (h : IsBelowRoot s) : rootOf s = .slash := by
  obtain ⟨c, rest, rfl, hc⟩ := h
  exact rootOf_cons (by simpa using hc)

lemma IsBelowRoot.ne_nil (h : IsBelowRoot s) : s ≠ [] := by
  obtain ⟨c, rest, rfl, -⟩ := h
  exact List.cons_ne_nil _ _

/-- What comes behind does not change the front. -/
lemma IsBelowRoot.append (h : IsBelowRoot s) (t : List Char) : IsBelowRoot (s ++ t) := by
  obtain ⟨c, rest, rfl, hc⟩ := h
  exact ⟨c, rest ++ t, rfl, hc⟩

/-- In front of a slash that is not the first one, there is one slash and more. -/
lemma IsBelowRoot.of_append_slash {front back : List Char} (hne : front ≠ [])
    (h : IsBelowRoot (front ++ '/' :: back)) : IsBelowRoot front := by
  obtain ⟨c, rest, heq, hc⟩ := h
  cases front with
  | nil => exact absurd rfl hne
  | cons first front =>
      cases front with
      | nil =>
          obtain ⟨-, hsecond, -⟩ := List.cons_eq_cons.1 heq |>.imp_right List.cons_eq_cons.1
          exact absurd hsecond.symm hc
      | cons second front =>
          obtain ⟨hfirst, hsecond, -⟩ := List.cons_eq_cons.1 heq |>.imp_right List.cons_eq_cons.1
          exact ⟨second, front, by rw [hfirst], hsecond ▸ hc⟩

/-- **A slash or a dot more is the same path**, and is still below the root. -/
lemma IsBelowRoot.respelled (h : IsBelowRoot s) (hst : Respelled s t) :
    IsBelowRoot t ∧ ofText t = ofText s := by
  have hsegments : segmentsOf t = segmentsOf s := by
    cases hst with
    | slash front back _ =>
        rw [segmentsOf_append, segmentsOf_append, segmentsOf_slash_cons]
    | dot front back _ =>
        rw [segmentsOf_append, segmentsOf_append, segmentsOf_dot_cons]
    | slashBehind => rw [segmentsOf_append s []]; exact List.append_nil _
    | dotBehind => rw [segmentsOf_append s ['.']]; exact List.append_nil _
  have hbelow : IsBelowRoot t := by
    cases hst with
    | slash front back hne => exact (h.of_append_slash hne).append _
    | dot front back hne => exact (h.of_append_slash hne).append _
    | slashBehind => exact h.append _
    | dotBehind => exact h.append _
  refine ⟨hbelow, ?_⟩
  rw [FilePath.mk.injEq]
  exact ⟨hbelow.rootOf_eq.trans h.rootOf_eq.symm, hsegments⟩

/-- So are any number of them. -/
lemma IsBelowRoot.respelledAll (h : IsBelowRoot s) (hst : Relation.ReflTransGen Respelled s t) :
    IsBelowRoot t ∧ ofText t = ofText s := by
  induction hst with
  | refl => exact ⟨h, rfl⟩
  | tail _ hlast ih =>
      obtain ⟨hbelow, heq⟩ := ih
      obtain ⟨hbelow', heq'⟩ := hbelow.respelled hlast
      exact ⟨hbelow', heq'.trans heq⟩

end FilePath

/-! ## Covered paths -/

namespace Mapping

open ContainerClients.FilePath

variable {mapping : Mapping}

/-- Texts that are the same path are covered alike, unless one of them is empty. -/
lemma covers_congr {path path' : String} (h : path ≠ "") (h' : path' ≠ "")
    (heq : ofText path.toList = ofText path'.toList) :
    mapping.covers path = mapping.covers path' := by
  rw [Bool.eq_iff_iff, covers_eq_true_iff, covers_eq_true_iff, heq, and_iff_right h,
    and_iff_right h']

/-- **Covering is a prefix test that ends at a slash.**

* A plain path is covered by plain host roots exactly when one of them is the root of all, or is the
  path, or is in front of it with a slash behind it.
* However a path below the root is spelled, it is covered alike, by any mounts. -/
theorem covers_iff_isPrefix (mapping : Mapping) :
    (∀ path : String, IsPlainPath path.toList →
      (∀ mount ∈ mapping, IsPlainPath mount.host.toList) →
      (mapping.covers path = true ↔ ∃ mount ∈ mapping,
        mount.host = "/" ∨ path = mount.host
          ∨ (mount.host ++ "/").toList <+: path.toList))
    ∧ ∀ path path' : String, IsBelowRoot path.toList →
      Relation.ReflTransGen Respelled path.toList path'.toList →
      mapping.covers path' = mapping.covers path := by
  constructor
  · intro path hpath hhosts
    have hne : path ≠ "" := by
      rintro rfl
      obtain ⟨segments, -, hempty⟩ := hpath.exists_segments
      exact absurd hempty (by simp)
    rw [covers_eq_true_iff, and_iff_right hne]
    refine exists_congr fun mount => and_congr_right fun hm => ?_
    rw [isUnder_iff_of_isPlainPath hpath (hhosts mount hm), ← String.toList_inj,
      ← String.toList_inj, String.toList_append]
    rfl
  · intro path path' hpath hspelled
    obtain ⟨hpath', heq⟩ := hpath.respelledAll hspelled
    refine covers_congr ?_ ?_ heq
    · rintro rfl
      exact hpath'.ne_nil rfl
    · rintro rfl
      exact hpath.ne_nil rfl

/-- A mount of a project. -/
def projectMount : Mapping := [⟨"/a/project", "/work"⟩]

/-- What only starts like the mount is not covered, and what lies under it is, however it is
spelled. -/
theorem covers_iff_isPrefix_project :
    IsPlainPath "/a/projectile".toList
      ∧ (∀ mount ∈ projectMount, IsPlainPath mount.host.toList)
      ∧ projectMount.covers "/a/projectile" = false
      ∧ Relation.ReflTransGen Respelled "/a/project/x".toList "/a/./project//x/.".toList
      ∧ projectMount.covers "/a/./project//x/." = true := by
  have hpath : IsPlainPath "/a/projectile".toList := .inr ⟨_, rfl, by decide⟩
  have hhosts : ∀ mount ∈ projectMount, IsPlainPath mount.host.toList := by
    intro mount hm
    rw [List.mem_singleton.1 hm]
    exact .inr ⟨_, rfl, by decide⟩
  have hspelled : Relation.ReflTransGen Respelled "/a/project/x".toList
      "/a/./project//x/.".toList :=
    .trans (.single (.dot "/a".toList "project/x".toList (by decide)))
      (.trans (.single (.slash "/a/./project".toList "x".toList (by decide)))
        (.single (.dotBehind "/a/./project//x".toList)))
  have hcovered : projectMount.covers "/a/project/x" = true := by
    refine ((covers_iff_isPrefix projectMount).1 _ (.inr ⟨_, rfl, by decide⟩) hhosts).2 ?_
    exact ⟨_, List.mem_singleton_self _, .inr (.inr (by decide))⟩
  refine ⟨hpath, hhosts, ?_, hspelled, ?_⟩
  · rw [Bool.eq_false_iff, Ne, (covers_iff_isPrefix projectMount).1 _ hpath hhosts]
    rintro ⟨mount, hm, hprefix⟩
    rw [List.mem_singleton.1 hm] at hprefix
    exact absurd hprefix (by decide)
  · rw [(covers_iff_isPrefix projectMount).2 "/a/project/x" _ ⟨'a', _, rfl, by decide⟩ hspelled,
      hcovered]

end Mapping

end ContainerClients
