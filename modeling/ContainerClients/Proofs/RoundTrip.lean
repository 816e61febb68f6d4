import ContainerClients.Proofs.Translation

/-!
# There and back: a host path through the container

A host path is translated at a site: the first host root that occurs in it gives way to the
container root of the same mount.  The way back looks for container roots, and so it has a site of
its own.  The path comes back exactly when the two sites are mirror images: the same mount at the
same place.

* `exists_backSite` — the way back has a site, at the mount of the way in or at an earlier one.
* `backSite_eq_iff` — what it makes of the path, and when that is the path itself.
* **`toHostPath_toContainerUri`** — the round trip for any mapping.
* `Mapping.Separated` — mounts whose roots do not contain each other.
* **`separated_roundTrip`** — the round trip for such mounts, and `separated_roundTrip_fails` — that
  they do not suffice.
-/

namespace ContainerClients.Mapping

open ContainerClients.Text

variable {mapping : Mapping} {path : List Char} {i : Nat} {host inner before after : List Char}

/-! ## The site of the way back -/

/-- **The way back has a site**, at the mount of the way in or at an earlier one: the container root
of the way in has just been written into the path. -/
lemma exists_backSite (h : IsSite mapping.toContainerRoots path i host inner before after) :
    ∃ j ≤ i, ∃ root other front back,
      IsSite mapping.toHostRoots (before ++ inner ++ after) j root other front back := by
  have hpair : mapping.toHostRoots[i]? = some (inner, host) := getElem?_toHostRoots_iff.2 h.pair
  have hocc : inner <:+: before ++ inner ++ after := ⟨before, after, rfl⟩
  obtain ⟨j, root, other, front, back, hsite⟩ :=
    exists_isSite ⟨(inner, host), List.mem_of_getElem? hpair, hocc⟩
  exact ⟨j, hsite.le_of_isInfix hpair hocc, root, other, front, back, hsite⟩

/-- **The path comes back exactly when the sites mirror each other.**  A site of an earlier mount,
or further left, would put a host root where the path has none. -/
lemma backSite_eq_iff {j : Nat} {root other front back : List Char}
    (h : IsSite mapping.toContainerRoots path i host inner before after)
    (hback : IsSite mapping.toHostRoots (before ++ inner ++ after) j root other front back) :
    front ++ other ++ back = path
      ↔ IsSite mapping.toHostRoots (before ++ inner ++ after) i inner host before after := by
  constructor
  · intro heq
    have hpair : mapping.toContainerRoots[j]? = some (other, root) :=
      getElem?_toHostRoots_iff.1 hback.pair
    have hij : i ≤ j := h.le_of_isInfix hpair ⟨front, back, heq⟩
    have hji : j ≤ i :=
      hback.le_of_isInfix (getElem?_toHostRoots_iff.2 h.pair) ⟨before, after, rfl⟩
    obtain rfl : i = j := Nat.le_antisymm hij hji
    have hp := h.pair.symm.trans hpair
    rw [Option.some.injEq, Prod.mk.injEq] at hp
    obtain ⟨rfl, rfl⟩ := hp
    -- each site is leftmost in its own text, and each text shows the other site
    have hle : before.length ≤ front.length := h.cut.leftmost _ _ heq.symm
    have hge : front.length ≤ before.length := hback.cut.leftmost _ _ rfl
    obtain ⟨rfl, rfl⟩ := LeftmostCut.eq_of_length_eq (h.cut.eq.symm.trans heq.symm)
      (Nat.le_antisymm hle hge)
    exact hback
  · intro hmirror
    obtain ⟨-, -, rfl, rfl, rfl⟩ := hback.unique hmirror
    exact h.cut.eq.symm

/-- The way back is taken at its site, when the translated path is absolute. -/
lemma toHostPath_of_backSite (container : String) {j : Nat} {root other front back : List Char}
    (habs : (before ++ inner ++ after).head? = some '/')
    (hback : IsSite mapping.toHostRoots (before ++ inner ++ after) j root other front back) :
    mapping.toHostPath container (uriOfPath (String.ofList (before ++ inner ++ after)))
      = .ok (String.ofList (front ++ other ++ back)) :=
  toHostPath_of_isSite (pathOfUri_uriOfPath_of_absolute habs) (by rwa [String.toList_ofList])

/-! ## Any mapping -/

/-- **The round trip of a host path.**  A path in which a host root occurs is translated at a site.
If what it becomes is absolute, then the way back succeeds, through the mount of the site or an
earlier one.  It gives the path exactly when that mount is found at the same place: no earlier
container root occurs in the translated path, and the mount's own container root first occurs where
it was put. -/
theorem toHostPath_toContainerUri (mapping : Mapping) (container path : String)
    (hocc : ∃ mount ∈ mapping, mount.host.toList <:+: path.toList) :
    ∃ i host inner before after,
      IsSite mapping.toContainerRoots path.toList i host inner before after
      ∧ ((before ++ inner ++ after).head? = some '/' →
        ∃ uri, mapping.toContainerUri path = .ok uri
          ∧ (∃ j ≤ i, ∃ root other front back,
              IsSite mapping.toHostRoots (before ++ inner ++ after) j root other front back
              ∧ mapping.toHostPath container uri = .ok (String.ofList (front ++ other ++ back)))
          ∧ (mapping.toHostPath container uri = .ok path
              ↔ IsSite mapping.toHostRoots (before ++ inner ++ after)
                  i inner host before after)) := by
  obtain ⟨i, host, inner, before, after, hsite⟩ := exists_isSite_of_mount hocc
  refine ⟨i, host, inner, before, after, hsite, ?_⟩
  intro habs
  obtain ⟨j, hj, root, other, front, back, hback⟩ := exists_backSite hsite
  have htrip := toHostPath_of_backSite container habs hback
  refine ⟨_, toContainerUri_of_isSite hsite, ⟨j, hj, root, other, front, back, hback, htrip⟩, ?_⟩
  rw [htrip, Except.ok.injEq, ← String.toList_inj, String.toList_ofList]
  exact backSite_eq_iff hsite hback

/-- Two mounts without a common root. -/
def twoMounts : Mapping := [⟨"/a", "/x"⟩, ⟨"/b", "/y"⟩]

/-- A path below the second mount comes back, through a URI with escapes. -/
theorem toHostPath_toContainerUri_second_mount :
    (∃ mount ∈ twoMounts, mount.host.toList <:+: "/b/é c".toList)
    ∧ ∃ uri, twoMounts.toContainerUri "/b/é c" = .ok uri
      ∧ twoMounts.toHostPath "box" uri = .ok "/b/é c" := by
  have hocc : ∃ mount ∈ twoMounts, mount.host.toList <:+: "/b/é c".toList :=
    ⟨⟨"/b", "/y"⟩, by decide, by decide⟩
  have hsite : IsSite twoMounts.toContainerRoots "/b/é c".toList 1 "/b".toList "/y".toList
      [] "/é c".toList := ⟨rfl, by decide, .of_front _ _⟩
  have hmirror : IsSite twoMounts.toHostRoots "/y/é c".toList 1 "/y".toList "/b".toList
      [] "/é c".toList := ⟨rfl, by decide, .of_front _ _⟩
  obtain ⟨i, host, inner, before, after, hfound, htrip⟩ :=
    toHostPath_toContainerUri twoMounts "box" "/b/é c" hocc
  obtain ⟨rfl, rfl, rfl, rfl, rfl⟩ := hsite.unique hfound
  obtain ⟨uri, huri, -, hback⟩ := htrip rfl
  exact ⟨hocc, uri, huri, hback.2 hmirror⟩

/-! ## Separated mounts -/

/-- No text of the list occurs in another one. -/
def Incomparable (roots : List (List Char)) : Prop :=
  roots.Pairwise fun a b => ¬ a <:+: b ∧ ¬ b <:+: a

instance (roots : List (List Char)) : Decidable (Incomparable roots) :=
  inferInstanceAs (Decidable (roots.Pairwise _))

/-- **Separated mounts**: all roots are absolute, no host root contains the host root of another
mount, and no container root the container root of another mount. -/
structure Separated (mapping : Mapping) : Prop where
  /-- all roots are absolute -/
  absolute : ∀ mount ∈ mapping,
    mount.host.toList.head? = some '/' ∧ mount.container.toList.head? = some '/'
  /-- host roots do not contain each other -/
  hosts : Incomparable (mapping.map fun mount => mount.host.toList)
  /-- container roots do not contain each other -/
  containers : Incomparable (mapping.map fun mount => mount.container.toList)

/-- A path is a root, or stands below it. -/
def LiesUnder (root path : List Char) : Prop := path = root ∨ root ++ ['/'] <+: path

instance (root path : List Char) : Decidable (LiesUnder root path) :=
  inferInstanceAs (Decidable (_ ∨ _))

/-- What lies under a root has the root in front. -/
lemma LiesUnder.isPrefix {root path : List Char} (h : LiesUnder root path) : root <+: path := by
  rcases h with rfl | h
  · exact List.prefix_rfl
  · exact (List.prefix_append root ['/']).trans h

/-- What lies under an absolute root is absolute. -/
lemma LiesUnder.absolute {root path : List Char} (h : LiesUnder root path)
    (hroot : root.head? = some '/') : path.head? = some '/' := by
  obtain ⟨rest, rfl⟩ := h.isPrefix
  rw [List.head?_append, hroot]
  rfl

/-- Between separated mounts an absolute path stays absolute. -/
lemma Separated.absolute_inside (hsep : mapping.Separated)
    (h : IsSite mapping.toContainerRoots path i host inner before after)
    (hpath : path.head? = some '/') : (before ++ inner ++ after).head? = some '/' := by
  obtain ⟨mount, hm, heq⟩ := List.mem_map.1 (List.mem_of_getElem? h.pair)
  rw [Prod.mk.injEq] at heq
  exact h.absolute (heq.2 ▸ (hsep.absolute mount hm).2) hpath

/-- Among roots that do not contain each other, each is its own site. -/
lemma Incomparable.isSite {roots : List (List Char × List Char)} {root other : List Char}
    (h : Incomparable (roots.map Prod.fst)) (hp : roots[i]? = some (root, other)) :
    IsSite roots root i root other [] [] := by
  refine ⟨hp, ?_, ?_⟩
  · intro j hj earlier hearlier
    obtain ⟨hi, hroot⟩ := List.getElem?_eq_some_iff.1 hp
    obtain ⟨hj', hfirst⟩ := List.getElem?_eq_some_iff.1 hearlier
    have hne := (List.pairwise_iff_getElem.1 h j i (by simpa using hj') (by simpa using hi) hj).1
    rwa [List.getElem_map, List.getElem_map, hroot, hfirst] at hne
  · have hfront := LeftmostCut.of_front root []
    rwa [List.append_nil] at hfront

/-- **A host root by itself comes back.** -/
lemma Separated.mirror_of_root (hsep : mapping.Separated) {mount : Mount} (hm : mount ∈ mapping)
    (h : IsSite mapping.toContainerRoots mount.host.toList i host inner before after) :
    IsSite mapping.toHostRoots (before ++ inner ++ after) i inner host before after := by
  have hhosts : Incomparable (mapping.toContainerRoots.map Prod.fst) := by
    simpa [toContainerRoots, Function.comp_def] using hsep.hosts
  have hcontainers : Incomparable (mapping.toHostRoots.map Prod.fst) := by
    simpa [toHostRoots, Function.comp_def] using hsep.containers
  obtain ⟨k, hk⟩ := List.mem_iff_getElem?.1 hm
  have hpair := getElem?_toContainerRoots hk
  obtain ⟨rfl, rfl, rfl, rfl, rfl⟩ := h.unique (hhosts.isSite hpair)
  have hback := hcontainers.isSite (getElem?_toHostRoots_iff.2 hpair)
  rwa [List.nil_append, List.append_nil]

/-- **A path under a mount that is translated there** comes back unless the container root of an
earlier mount occurs in what it becomes. -/
lemma mirror_under_mount_iff {k : Nat} {mount : Mount} {rest : List Char}
    (hk : mapping[k]? = some mount)
    (hfirst : ∀ j < k, ∀ earlier ∈ mapping[j]?,
      ¬ earlier.host.toList <:+: mount.host.toList ++ rest)
    (h : IsSite mapping.toContainerRoots (mount.host.toList ++ rest) i host inner before after) :
    IsSite mapping.toHostRoots (before ++ inner ++ after) i inner host before after
      ↔ ∀ j < k, ∀ earlier ∈ mapping[j]?,
          ¬ earlier.container.toList <:+: mount.container.toList ++ rest := by
  have hpair := getElem?_toContainerRoots hk
  have hsite := (isSite_front_iff hpair).2 (forall_mem_toContainerRoots.2 hfirst)
  obtain ⟨rfl, rfl, rfl, rfl, rfl⟩ := h.unique hsite
  rw [List.nil_append, isSite_front_iff (getElem?_toHostRoots_iff.2 hpair),
    forall_mem_toHostRoots]

/-- **The round trip of a path under separated mounts.**  It always succeeds, and it returns the
path exactly when the way back finds the mount of the way in at the same place.  That is so for
every host root itself.  Below the root of a mount, a path that holds no host root of an earlier
mount comes back exactly when what it becomes holds no container root of an earlier mount. -/
theorem separated_roundTrip {mapping : Mapping} (hsep : mapping.Separated) {path : String}
    (hunder : ∃ mount ∈ mapping, LiesUnder mount.host.toList path.toList) (container : String) :
    ∃ i host inner before after,
      IsSite mapping.toContainerRoots path.toList i host inner before after
      ∧ ∃ uri back, mapping.toContainerUri path = .ok uri
        ∧ mapping.toHostPath container uri = .ok back
        ∧ (back = path
            ↔ IsSite mapping.toHostRoots (before ++ inner ++ after) i inner host before after)
        ∧ ((∃ mount ∈ mapping, path = mount.host) → back = path)
        ∧ ∀ (k : Nat) (mount : Mount) (rest : List Char), mapping[k]? = some mount →
            path.toList = mount.host.toList ++ rest →
            (∀ j < k, ∀ earlier ∈ mapping[j]?, ¬ earlier.host.toList <:+: path.toList) →
            (back = path ↔ ∀ j < k, ∀ earlier ∈ mapping[j]?,
              ¬ earlier.container.toList <:+: mount.container.toList ++ rest) := by
  obtain ⟨mount, hm, hlies⟩ := hunder
  obtain ⟨i, host, inner, before, after, hsite⟩ :=
    exists_isSite_of_mount ⟨mount, hm, hlies.isPrefix.isInfix⟩
  have habs := hsep.absolute_inside hsite (hlies.absolute (hsep.absolute mount hm).1)
  obtain ⟨j, -, root, other, front, back, hback⟩ := exists_backSite hsite
  have hiff : String.ofList (front ++ other ++ back) = path
      ↔ IsSite mapping.toHostRoots (before ++ inner ++ after) i inner host before after := by
    rw [← String.toList_inj, String.toList_ofList]
    exact backSite_eq_iff hsite hback
  refine ⟨i, host, inner, before, after, hsite, _, _, toContainerUri_of_isSite hsite,
    toHostPath_of_backSite container habs hback, hiff, ?_, ?_⟩
  · rintro ⟨mount', hm', rfl⟩
    exact hiff.2 (hsep.mirror_of_root hm' hsite)
  · intro k mount' rest hk hpath hfirst
    rw [hpath] at hsite hfirst
    rw [hiff, mirror_under_mount_iff hk hfirst hsite]

/-- **Separated mounts do not suffice for the round trip.**  Below the second mount stands what is
the first mount's root in the container, and the way back takes it for that root. -/
theorem separated_roundTrip_fails :
    Mapping.ofDatum (.ofTexts ["/a:/x", "/b:/y"]) = .ok twoMounts
    ∧ twoMounts.Separated
    ∧ (∃ mount ∈ twoMounts, LiesUnder mount.host.toList "/b/x".toList)
    ∧ twoMounts.toContainerUri "/b/x" = .ok "file:///y/x"
    ∧ twoMounts.toHostPath "box" "file:///y/x" = .ok "/y/a" :=
  ⟨rfl, ⟨by decide, by decide, by decide⟩, by decide, rfl, rfl⟩

/-- Another path below the second mount comes back. -/
theorem separated_roundTrip_two_mounts :
    twoMounts.Separated
    ∧ (∃ mount ∈ twoMounts, LiesUnder mount.host.toList "/b/z".toList)
    ∧ ∃ uri, twoMounts.toContainerUri "/b/z" = .ok uri
      ∧ twoMounts.toHostPath "box" uri = .ok "/b/z" := by
  have hsep : twoMounts.Separated := ⟨by decide, by decide, by decide⟩
  have hunder : ∃ mount ∈ twoMounts, LiesUnder mount.host.toList "/b/z".toList := by decide
  obtain ⟨-, -, -, -, -, -, uri, back, huri, hback, -, -, hmount⟩ :=
    separated_roundTrip hsep hunder "box"
  have hsame : back = "/b/z" :=
    (hmount 1 ⟨"/b", "/y"⟩ "/z".toList rfl rfl (by decide)).2 (by decide)
  exact ⟨hsep, hunder, uri, huri, hsame ▸ hback⟩

end ContainerClients.Mapping
