import Mathlib.Data.List.Chain
import ContainerClients.Proofs.ParsedMount
import ContainerClients.Proofs.Translation

/-!
# What a bind mount shows, and how translation names it

A runtime that mounts `HOST:CONTAINER` shows the file `HOST/a/b` as `CONTAINER/a/b`: the segments
below the roots stay, and one slash stands before each of them.  Translation replaces the text of a
root by the text of the other.  The two agree as long as both roots end in something that is no
slash.  A root that is nothing but slashes has no such end: its last slash is both the root and the
slash before the first segment, so replacing it loses a slash on one side or brings in another.

* `Mount.below` — the file that some segments lead to from a root.
* `Mount.IsFaithful` — both roots have a segment, or both are `/`.
* `translate?_below_iff` — exactly then replacing one root by the other leads to the same segments.
* **`translation_names_mounted_file_iff`** — so exactly then translation names the file that the
  mount shows, in both directions, and `translation_names_mounted_file_fails` — that reading a
  mount does not ensure it.
-/

namespace ContainerClients.Mount

open ContainerClients.Text

/-! ## Files below a root -/

/-- **The file below a root**: the root without the slashes at its end, and one slash before each
segment. -/
def below (root : List Char) (segments : List (List Char)) : List Char :=
  dropEndWhile (· == '/') root ++ segments.flatMap ('/' :: ·)

/-- A component of a path is not empty and holds no slash. -/
def IsComponent (segment : List Char) : Prop := segment ≠ [] ∧ '/' ∉ segment

instance (segment : List Char) : Decidable (IsComponent segment) :=
  inferInstanceAs (Decidable (_ ∧ _))

/-- A root that is nothing but slashes. -/
def IsBare (root : List Char) : Prop := dropEndWhile (· == '/') root = []

instance (root : List Char) : Decidable (IsBare root) := inferInstanceAs (Decidable (_ = _))

/-- **A faithful mount**: both roots have a segment, or both are the top of their tree. -/
def IsFaithful (mount : Mount) : Prop :=
  (¬ IsBare mount.host.toList ∧ ¬ IsBare mount.container.toList)
    ∨ (mount.host = "/" ∧ mount.container = "/")

instance (mount : Mount) : Decidable mount.IsFaithful := inferInstanceAs (Decidable (_ ∨ _))

/-- The top of a tree is a bare root. -/
lemma isBare_slash : IsBare ['/'] := by decide

/-- A bare root holds nothing but slashes. -/
lemma IsBare.eq_slash {root : List Char} (h : IsBare root) : ∀ c ∈ root, c = '/' := by
  intro c hc
  exact eq_of_beq (List.rdropWhile_eq_nil_iff.1 h c hc)

/-- Below a root that is not bare, the root stands in front. -/
lemma below_of_not_isBare {root : List Char} (htrim : trimSlashes root = root)
    (hbare : ¬ IsBare root) (segments : List (List Char)) :
    below root segments = root ++ segments.flatMap ('/' :: ·) := by
  rw [below, (trimSlashes_eq_self_iff.1 htrim).resolve_right hbare]

/-- Below a bare root, nothing stands in front. -/
lemma below_of_isBare {root : List Char} (hbare : IsBare root) (segments : List (List Char)) :
    below root segments = segments.flatMap ('/' :: ·) := by
  rw [below, hbare, List.nil_append]

/-- What segments come to starts with a slash. -/
lemma exists_slash_cons {segments : List (List Char)} (hne : segments ≠ []) :
    ∃ rest, segments.flatMap ('/' :: ·) = '/' :: rest := by
  obtain ⟨first, others, rfl⟩ := List.exists_cons_of_ne_nil hne
  exact ⟨first ++ others.flatMap ('/' :: ·), rfl⟩

/-- A file below an absolute root is absolute. -/
lemma head?_below {root : List Char} (hroot : root.head? = some '/')
    {segments : List (List Char)} (hne : segments ≠ []) :
    (below root segments).head? = some '/' := by
  obtain ⟨rest, hrest⟩ := exists_slash_cons hne
  rw [below, hrest]
  cases hkept : dropEndWhile (· == '/') root with
  | nil => rfl
  | cons c kept =>
      have hc : c ∈ root.head? :=
        head?_of_isPrefix (dropEndWhile_isPrefix (· == '/') root) (by rw [hkept]; rfl)
      exact (Option.mem_def.1 hc).symm.trans hroot

/-- Two characters in a row, not both of which are slashes. -/
def NotBothSlash (a b : Char) : Prop := a ≠ '/' ∨ b ≠ '/'

/-- **One slash stands before each segment**, never two in a row. -/
lemma isChain_flatMap {segments : List (List Char)} (h : ∀ s ∈ segments, IsComponent s) :
    (segments.flatMap ('/' :: ·)).IsChain NotBothSlash := by
  induction segments with
  | nil => exact .nil
  | cons first others ih =>
      obtain ⟨hne, hslash⟩ := h first List.mem_cons_self
      obtain ⟨c, rest, rfl⟩ := List.exists_cons_of_ne_nil hne
      have hc : ∀ x ∈ c :: rest, x ≠ '/' := fun x hx he => hslash (he ▸ hx)
      have hfirst : (c :: rest).IsChain NotBothSlash :=
        (List.pairwise_of_forall_mem_list fun x hx _ _ => Or.inl (hc x hx)).isChain
      rw [List.flatMap_cons, List.cons_append, List.isChain_cons, List.isChain_append]
      refine ⟨?_, hfirst, ih fun s hs => h s (List.mem_cons_of_mem _ hs), ?_⟩
      · intro y hy
        obtain rfl : c = y := Option.some.inj hy
        exact Or.inr (hc c List.mem_cons_self)
      · intro x hx _ _
        exact Or.inl (hc x (List.mem_of_mem_getLast? hx))

/-- Two slashes in a row do not occur below a bare root. -/
lemma not_isInfix_flatMap {segments : List (List Char)} (h : ∀ s ∈ segments, IsComponent s)
    (root : List Char) : ¬ '/' :: '/' :: root <:+: segments.flatMap ('/' :: ·) := by
  rintro ⟨front, back, heq⟩
  have hwhole := isChain_flatMap h
  rw [← heq] at hwhole
  have hchain := hwhole.left_of_append.right_of_append
  rw [List.isChain_cons_cons] at hchain
  exact hchain.1.elim (fun hne => hne rfl) (fun hne => hne rfl)

end ContainerClients.Mount

namespace ContainerClients.Mapping

open ContainerClients.Text ContainerClients.Mount

/-! ## Replacing one root by the other -/

section

variable {root other : List Char} {segments : List (List Char)}

/-- A root in front of a path is replaced there. -/
lemma translate?_front (root other rest : List Char) :
    translate? [(root, other)] (root ++ rest) = some (other ++ rest) :=
  translate?_of_isSite (i := 0)
    ⟨rfl, fun _ hj => absurd hj (Nat.not_lt_zero _), .of_front root rest⟩

/-- A root that is not bare gives way to one that is not bare either. -/
lemma translate?_below_of_not_isBare (htrim : trimSlashes root = root) (hbare : ¬ IsBare root)
    (htrim' : trimSlashes other = other) (hne' : other ≠ []) :
    translate? [(root, other)] (below root segments) = some (below other segments)
      ↔ ¬ IsBare other := by
  rw [below_of_not_isBare htrim hbare, translate?_front, Option.some.injEq]
  constructor
  · intro heq hbare'
    rw [below_of_isBare hbare', List.append_left_eq_self] at heq
    exact hne' heq
  · intro hbare'
    rw [below_of_not_isBare htrim' hbare']

/-- The bare root `/` is the slash before the first segment, and so gives way to `/` only. -/
lemma translate?_below_slash (htrim' : trimSlashes other = other) (hne : segments ≠ []) :
    translate? [(['/'], other)] (below ['/'] segments) = some (below other segments)
      ↔ other = ['/'] := by
  obtain ⟨rest, hrest⟩ := exists_slash_cons hne
  have hfront : translate? [(['/'], other)] (below ['/'] segments) = some (other ++ rest) := by
    rw [below_of_isBare isBare_slash, hrest]
    exact translate?_front ['/'] other rest
  rw [hfront, Option.some.injEq, below, hrest, List.append_cons _ '/', List.append_left_inj]
  constructor
  · intro heq
    rcases trimSlashes_eq_self_iff.1 htrim' with hkept | hbare'
    · rw [hkept] at heq
      have hlen := congrArg List.length heq
      rw [List.length_append, List.length_singleton] at hlen
      omega
    · rwa [hbare', List.nil_append] at heq
  · rintro rfl
    rfl

/-- A bare root of two slashes or more does not occur below itself. -/
lemma translate?_below_of_isBare (hbare : IsBare root) (hne : root ≠ []) (hroot : root ≠ ['/'])
    (hsegments : ∀ s ∈ segments, IsComponent s) :
    translate? [(root, other)] (below root segments) = none := by
  have hslashes : ∃ rest, root = '/' :: '/' :: rest := by
    obtain ⟨c, kept, rfl⟩ := List.exists_cons_of_ne_nil hne
    obtain rfl : c = '/' := hbare.eq_slash c List.mem_cons_self
    have hkept : kept ≠ [] := fun he => hroot (he ▸ rfl)
    obtain ⟨c, kept, rfl⟩ := List.exists_cons_of_ne_nil hkept
    obtain rfl : c = '/' := hbare.eq_slash c (List.mem_cons_of_mem _ List.mem_cons_self)
    exact ⟨kept, rfl⟩
  obtain ⟨rest, rfl⟩ := hslashes
  rw [below_of_isBare hbare, translate?_eq_none_iff]
  intro pair hpair
  obtain rfl := List.mem_singleton.1 hpair
  exact not_isInfix_flatMap hsegments rest

/-- **Replacing a root by another leads to the same segments** exactly when neither is bare, or both
are `/`. -/
theorem translate?_below_iff (htrim : trimSlashes root = root) (hne : root ≠ [])
    (htrim' : trimSlashes other = other) (hne' : other ≠ []) (hsegments : segments ≠ [])
    (hcomponents : ∀ s ∈ segments, IsComponent s) :
    translate? [(root, other)] (below root segments) = some (below other segments)
      ↔ (¬ IsBare root ∧ ¬ IsBare other) ∨ (root = ['/'] ∧ other = ['/']) := by
  by_cases hbare : IsBare root
  · have hnot : ¬ (¬ IsBare root ∧ ¬ IsBare other) := fun h => h.1 hbare
    rw [or_iff_right hnot]
    by_cases hroot : root = ['/']
    · subst hroot
      rw [translate?_below_slash htrim' hsegments]
      exact (and_iff_right rfl).symm
    · rw [translate?_below_of_isBare hbare hne hroot hcomponents]
      exact iff_of_false (by simp) (fun h => hroot h.1)
  · have hroot : root ≠ ['/'] := fun he => hbare (he ▸ rfl)
    rw [translate?_below_of_not_isBare htrim hbare htrim' hne',
      or_iff_left (fun h => hroot h.1), and_iff_right hbare]

end

/-! ## The two directions -/

variable {mapping : Mapping} {path : String} {out : List Char}

/-- A URI is named that denotes a path exactly when the path is translated to it, as long as all
container roots are absolute. -/
lemma exists_toContainerUri_iff
    (hroots : ∀ mount ∈ mapping, mount.container.toList.head? = some '/')
    (hpath : path.toList.head? = some '/') :
    (∃ uri, mapping.toContainerUri path = .ok uri ∧ pathOfUri uri = .ok (String.ofList out))
      ↔ translate? mapping.toContainerRoots path.toList = some out := by
  rw [toContainerUri]
  cases htr : translate? mapping.toContainerRoots path.toList with
  | none => simp
  | some inside =>
      obtain ⟨i, root, other, before, after, hsite, hinside⟩ := exists_isSite_of_translate? htr
      obtain ⟨mount, hm, hpair⟩ := List.mem_map.1 (List.mem_of_getElem? hsite.pair)
      rw [Prod.mk.injEq] at hpair
      have habs : inside.head? = some '/' :=
        hinside ▸ hsite.absolute (hpair.2 ▸ hroots mount hm) hpath
      have hback := pathOfUri_uriOfPath_of_absolute habs
      simp only [Except.ok.injEq, exists_eq_left', hback, String.ofList_inj, Option.some.injEq]

/-- An absolute path is translated to a host path, whatever the container is called, exactly when a
root is replaced. -/
lemma forall_toHostPath_iff (hpath : path.toList.head? = some '/') :
    (∀ container, mapping.toHostPath container (uriOfPath path) = .ok (String.ofList out))
      ↔ translate? mapping.toHostRoots path.toList = some out := by
  have huri := pathOfUri_uriOfPath_of_absolute hpath
  rw [String.ofList_toList] at huri
  cases htr : translate? mapping.toHostRoots path.toList with
  | some host =>
      simp only [toHostPath_of_translate?_eq_some huri htr, Except.ok.injEq, String.ofList_inj,
        forall_const, Option.some.injEq]
  | none =>
      refine iff_of_false ?_ (by simp)
      intro h
      simp only [toHostPath_of_translate?_eq_none huri htr, Except.ok.injEq] at h
      exact absurd (remotePath_injective path ((h "").trans (h "a").symm)) (by decide)

/-- **Translation names the file that a bind mount shows.**  For a single mount that was read, with
absolute roots, and any file below its roots:

* the URI of the file on the host denotes the file in the container,
* and the URI of the file in the container is translated to the file on the host,

each exactly when both roots have a segment or both are `/`. -/
theorem translation_names_mounted_file_iff {d : Datum} {mount : Mount}
    (hread : Mapping.ofDatum d = .ok [mount])
    (hhost : mount.host.toList.head? = some '/')
    (hcontainer : mount.container.toList.head? = some '/')
    {segments : List (List Char)} (hne : segments ≠ [])
    (hcomponents : ∀ s ∈ segments, IsComponent s) :
    ((∃ uri, toContainerUri [mount] (String.ofList (below mount.host.toList segments)) = .ok uri
        ∧ pathOfUri uri = .ok (String.ofList (below mount.container.toList segments)))
      ↔ mount.IsFaithful)
    ∧ ((∀ name, toHostPath [mount] name
          (uriOfPath (String.ofList (below mount.container.toList segments)))
          = .ok (String.ofList (below mount.host.toList segments)))
      ↔ mount.IsFaithful) := by
  obtain ⟨item, hitem⟩ := exists_ofDatum_of_mem hread List.mem_cons_self
  obtain ⟨htrim, htrim'⟩ := trimSlashes_of_ofDatum hitem
  obtain ⟨hkept, hkept'⟩ := isKeptRoot_of_ofDatum hread List.mem_cons_self
  have hslash : ∀ root : String, root.toList = ['/'] ↔ root = "/" :=
    fun root => (String.toList_inj : root.toList = "/".toList ↔ root = "/")
  have hroots : ∀ m ∈ [mount], m.container.toList.head? = some '/' := by
    intro m hm
    rwa [List.mem_singleton.1 hm]
  rw [exists_toContainerUri_iff hroots (by rw [String.toList_ofList]; exact head?_below hhost hne),
    forall_toHostPath_iff (by rw [String.toList_ofList]; exact head?_below hcontainer hne)]
  simp only [String.toList_ofList]
  constructor
  · rw [IsFaithful, ← hslash, ← hslash]
    exact translate?_below_iff htrim hkept.ne_nil htrim' hkept'.ne_nil hne hcomponents
  · rw [IsFaithful, ← hslash, ← hslash, and_comm (a := ¬ _), and_comm (a := _ = _)]
    exact translate?_below_iff htrim' hkept'.ne_nil htrim hkept.ne_nil hne hcomponents

/-- A mount of a folder, whose files are named as they are mounted. -/
theorem translation_names_mounted_file_project :
    Mapping.ofDatum (.ofTexts ["/home/me:/work/"]) = .ok [⟨"/home/me", "/work"⟩]
    ∧ (∃ uri, toContainerUri [⟨"/home/me", "/work"⟩] "/home/me/a b/home/me" = .ok uri
      ∧ pathOfUri uri = .ok "/work/a b/home/me")
    ∧ ∀ name, toHostPath [⟨"/home/me", "/work"⟩] name (uriOfPath "/work/a b/home/me")
        = .ok "/home/me/a b/home/me" := by
  have hread : Mapping.ofDatum (.ofTexts ["/home/me:/work/"])
      = .ok [⟨"/home/me", "/work"⟩] := rfl
  have hcomponents : ∀ s ∈ ["a b".toList, "home".toList, "me".toList], IsComponent s := by decide
  obtain ⟨hin, hout⟩ :=
    translation_names_mounted_file_iff hread rfl rfl (List.cons_ne_nil _ _) hcomponents
  exact ⟨hread, hin.2 (by decide), hout.2 (by decide)⟩

/-- **A mount of the top of a tree is not always translated as it is mounted.**  The file `/etc/x`
of the host is mounted at `/host/etc/x`, and named as `/hostetc/x`; on the way back `/x` of the
container, which is `/srv/x` of the host, is named as `/srvx`. -/
theorem translation_names_mounted_file_fails :
    Mapping.ofDatum (.ofTexts ["/:/host"]) = .ok [⟨"/", "/host"⟩]
    ∧ below "/".toList ["etc".toList, "x".toList] = "/etc/x".toList
    ∧ below "/host".toList ["etc".toList, "x".toList] = "/host/etc/x".toList
    ∧ toContainerUri [⟨"/", "/host"⟩] "/etc/x" = .ok "file:///hostetc/x"
    ∧ pathOfUri "file:///hostetc/x" = .ok "/hostetc/x"
    ∧ Mapping.ofDatum (.ofTexts ["/srv:/"]) = .ok [⟨"/srv", "/"⟩]
    ∧ below "/srv".toList ["x".toList] = "/srv/x".toList
    ∧ toHostPath [⟨"/srv", "/"⟩] "box" (uriOfPath "/x") = .ok "/srvx" :=
  ⟨rfl, rfl, rfl, rfl, rfl, rfl, rfl, rfl⟩

end ContainerClients.Mapping
