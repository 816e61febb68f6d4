import ContainerClients.Proofs.RoundTrip

/-!
# There and back: a container path through the host

A server names a file by a path in the container.  The first container root that occurs in it gives
way to the host root of the same mount, and the way back looks for host roots.  That is the round
trip of a host path with every mount turned round, so its laws are those of the reversed mapping.

* `Mapping.reversed` — every mount with its roots exchanged.
* `exists_returnSite` — the way back has a site of its own, and when that is the place of the way
  in.
* **`toContainerUri_toHostPath`** — the round trip of a container path for any mapping.
-/

namespace ContainerClients.Mapping

open ContainerClients.Text

/-! ## Mounts turned round -/

/-- **The mounts seen from the container**: each with its roots exchanged. -/
def reversed (mapping : Mapping) : Mapping :=
  mapping.map fun mount => ⟨mount.container, mount.host⟩

@[simp] lemma toContainerRoots_reversed (mapping : Mapping) :
    mapping.reversed.toContainerRoots = mapping.toHostRoots := by
  simp [reversed, toContainerRoots, toHostRoots, Function.comp_def]

@[simp] lemma toHostRoots_reversed (mapping : Mapping) :
    mapping.reversed.toHostRoots = mapping.toContainerRoots := by
  simp [reversed, toContainerRoots, toHostRoots, Function.comp_def]

variable {mapping : Mapping} {path : List Char} {i : Nat} {inner host before after : List Char}

/-- A path in which a container root occurs has a site. -/
lemma exists_isSite_of_container {path : List Char}
    (h : ∃ mount ∈ mapping, mount.container.toList <:+: path) :
    ∃ i inner host before after, IsSite mapping.toHostRoots path i inner host before after := by
  obtain ⟨mount, hm, hocc⟩ := h
  rw [← toContainerRoots_reversed]
  exact exists_isSite_of_mount ⟨_, List.mem_map_of_mem hm, hocc⟩

/-- **The way back to the container** has a site, and it gives the path again exactly when that site
is at the same mount and the same place. -/
lemma exists_returnSite (h : IsSite mapping.toHostRoots path i inner host before after) :
    ∃ j root other front back,
      IsSite mapping.toContainerRoots (before ++ host ++ after) j root other front back
      ∧ (front ++ other ++ back = path
        ↔ IsSite mapping.toContainerRoots (before ++ host ++ after) i host inner before after) := by
  rw [← toContainerRoots_reversed] at h
  obtain ⟨j, -, root, other, front, back, hback⟩ := exists_backSite h
  have hiff := backSite_eq_iff h hback
  rw [toHostRoots_reversed] at hback hiff
  exact ⟨j, root, other, front, back, hback, hiff⟩

/-! ## Any mapping -/

/-- **The round trip of a container path.**  An absolute path in which a container root occurs is
translated at a site to a path on the host, and that path is always translated back.  The URI is
that of the path exactly when the way back finds the same mount at the same place: no earlier host
root occurs in the host path, and the mount's own host root first occurs where it was put. -/
theorem toContainerUri_toHostPath (mapping : Mapping) (container path : String)
    (habs : path.toList.head? = some '/')
    (hocc : ∃ mount ∈ mapping, mount.container.toList <:+: path.toList) :
    ∃ i inner host before after,
      IsSite mapping.toHostRoots path.toList i inner host before after
      ∧ mapping.toHostPath container (uriOfPath path)
          = .ok (String.ofList (before ++ host ++ after))
      ∧ ∃ uri, mapping.toContainerUri (String.ofList (before ++ host ++ after)) = .ok uri
        ∧ (uri = uriOfPath path
          ↔ IsSite mapping.toContainerRoots (before ++ host ++ after)
              i host inner before after) := by
  obtain ⟨i, inner, host, before, after, hsite⟩ := exists_isSite_of_container hocc
  obtain ⟨j, root, other, front, back, hback, hiff⟩ := exists_returnSite hsite
  have hpath : pathOfUri (uriOfPath path) = .ok path := by
    have hread := pathOfUri_uriOfPath_of_absolute habs
    rwa [String.ofList_toList] at hread
  refine ⟨i, inner, host, before, after, hsite, toHostPath_of_isSite hpath hsite, _,
    toContainerUri_of_isSite (by rwa [String.toList_ofList]), ?_⟩
  rw [uriOfPath_inj, ← String.toList_inj, String.toList_ofList, hiff]

/-- Below the second mount a container path comes back, through a URI with escapes. -/
theorem toContainerUri_toHostPath_second_mount :
    "/y/é c".toList.head? = some '/'
    ∧ (∃ mount ∈ twoMounts, mount.container.toList <:+: "/y/é c".toList)
    ∧ twoMounts.toHostPath "box" (uriOfPath "/y/é c") = .ok "/b/é c"
    ∧ twoMounts.toContainerUri "/b/é c" = .ok (uriOfPath "/y/é c") := by
  have hocc : ∃ mount ∈ twoMounts, mount.container.toList <:+: "/y/é c".toList :=
    ⟨⟨"/b", "/y"⟩, by decide, by decide⟩
  have hsite : IsSite twoMounts.toHostRoots "/y/é c".toList 1 "/y".toList "/b".toList
      [] "/é c".toList := ⟨rfl, by decide, .of_front _ _⟩
  have hmirror : IsSite twoMounts.toContainerRoots "/b/é c".toList 1 "/b".toList "/y".toList
      [] "/é c".toList := ⟨rfl, by decide, .of_front _ _⟩
  obtain ⟨i, inner, host, before, after, hfound, hhost, uri, huri, hback⟩ :=
    toContainerUri_toHostPath twoMounts "box" "/y/é c" rfl hocc
  obtain ⟨rfl, rfl, rfl, rfl, rfl⟩ := hsite.unique hfound
  rw [hback.2 hmirror] at huri
  exact ⟨rfl, hocc, hhost, huri⟩

end ContainerClients.Mapping
