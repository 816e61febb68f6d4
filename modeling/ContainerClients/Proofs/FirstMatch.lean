import Mathlib.Order.Bounds.Basic
import ContainerClients.Proofs.Translation

/-!
# The first mount, and the leftmost position

Translation is a loop over the mounts with a search in each turn.  Here it is said without either:
a root occurs *at a position* when the text starts with it from there on, and what is replaced is
the root of the first mount that has a position, at the least one.  Everything in front of that
position and behind the root stays as it is.

* `OccursAt` — a word at a position of a text.
* `leftmostCut_of_isLeast` — the least position makes the leftmost cut.
* `Matches`, `IsFirstMatch` — a mount whose root has a position, and the first of them with the
  least one.
* `toContainerUri_append`, `toHostPath_append` — mounts behind others are asked only when those have
  no position.
* **`translation_at_first_match`** — both directions by positions.
-/

namespace ContainerClients.Text

variable {α : Type} {word text : List α} {k : Nat}

/-! ## Positions -/

/-- **A word at a position**: from there on the text starts with the word. -/
def OccursAt (word text : List α) (k : Nat) : Prop := k ≤ text.length ∧ word <+: text.drop k

instance [DecidableEq α] (word text : List α) (k : Nat) : Decidable (OccursAt word text k) :=
  inferInstanceAs (Decidable (_ ∧ _))

/-- The text with as many characters as `word` has, from a position on, replaced by `other`. -/
def replaceAt (k : Nat) (word other text : List α) : List α :=
  text.take k ++ other ++ text.drop (k + word.length)

/-- At a position of the word, replacing it by itself changes nothing. -/
lemma OccursAt.replaceAt_self (h : OccursAt word text k) : replaceAt k word word text = text := by
  obtain ⟨rest, hrest⟩ := h.2
  have hback : text.drop (k + word.length) = rest := by
    rw [← List.drop_drop, ← hrest, List.drop_left]
  rw [replaceAt, hback, List.append_assoc, hrest, List.take_append_drop]

/-- What stands in front of a word is a position of it. -/
lemma occursAt_length (before word after : List α) :
    OccursAt word (before ++ word ++ after) before.length := by
  refine ⟨?_, after, ?_⟩
  · rw [List.append_assoc, List.length_append]
    exact Nat.le_add_right _ _
  · rw [List.append_assoc, List.drop_left]

/-- **A word has a position exactly when it occurs.** -/
lemma exists_occursAt_iff : (∃ k, OccursAt word text k) ↔ word <:+: text := by
  constructor
  · rintro ⟨k, -, hprefix⟩
    exact hprefix.isInfix.trans (List.drop_suffix k text).isInfix
  · rintro ⟨before, after, rfl⟩
    exact ⟨before.length, occursAt_length before word after⟩

lemma forall_not_occursAt_iff : (∀ k, ¬ OccursAt word text k) ↔ ¬ word <:+: text := by
  rw [← exists_occursAt_iff, not_exists]

/-- **The least position makes the leftmost cut.** -/
lemma leftmostCut_of_isLeast (h : IsLeast {k | OccursAt word text k} k) :
    LeftmostCut word (text.take k) (text.drop (k + word.length)) text := by
  refine ⟨(OccursAt.replaceAt_self h.1).symm, ?_⟩
  rintro before after htext
  rw [List.length_take, Nat.min_eq_left h.1.1]
  exact h.2 (htext ▸ occursAt_length before word after)

/-- A leftmost cut stands at the least position. -/
lemma LeftmostCut.isLeast {before after : List α} (h : LeftmostCut word before after text) :
    IsLeast {k | OccursAt word text k} before.length := by
  refine ⟨h.eq ▸ occursAt_length before word after, ?_⟩
  intro k hk
  have hle := h.leftmost _ _ (OccursAt.replaceAt_self hk).symm
  rwa [List.length_take, Nat.min_eq_left hk.1] at hle

end ContainerClients.Text

namespace ContainerClients.Mapping

open ContainerClients.Text

variable {mapping others : Mapping} {root other : Mount → String} {text : List Char} {i k : Nat}
  {mount : Mount}

/-! ## Matches -/

/-- **A mapping matches a text** when the root of some mount has a position in it.  `root` says
which of the two roots is looked for. -/
def Matches (mapping : Mapping) (root : Mount → String) (text : List Char) : Prop :=
  ∃ mount ∈ mapping, ∃ k, OccursAt (root mount).toList text k

/-- **The first match**: no earlier mount's root has a position in the text, and this is the least
position of the mount's own. -/
structure IsFirstMatch (mapping : Mapping) (root : Mount → String) (text : List Char) (i : Nat)
    (mount : Mount) (k : Nat) : Prop where
  /-- the number of the mount -/
  mount_eq : mapping[i]? = some mount
  /-- no earlier mount's root has a position -/
  first : ∀ j < i, ∀ earlier ∈ mapping[j]?, ∀ p, ¬ OccursAt (root earlier).toList text p
  /-- where the mount's root stands, and nowhere further left -/
  least : IsLeast {p | OccursAt (root mount).toList text p} k

/-- The roots that are looked for, each with what replaces it. -/
def rootPairs (mapping : Mapping) (root other : Mount → String) : List (List Char × List Char) :=
  mapping.map fun mount => ((root mount).toList, (other mount).toList)

lemma not_matches_iff (other : Mount → String) :
    ¬ mapping.Matches root text ↔ translate? (mapping.rootPairs root other) text = none := by
  rw [translate?_eq_none_iff, rootPairs, List.forall_mem_map]
  simp only [Matches, exists_occursAt_iff, not_exists, not_and]

/-- **Of two mappings the first one that matches translates.** -/
lemma translate?_rootPairs_append :
    (mapping.Matches root text →
      translate? ((mapping ++ others).rootPairs root other) text
        = translate? (mapping.rootPairs root other) text)
    ∧ (¬ mapping.Matches root text →
      translate? ((mapping ++ others).rootPairs root other) text
        = translate? (others.rootPairs root other) text) := by
  rw [rootPairs, List.map_append, translate?_append]
  constructor
  · intro h
    have hsome : translate? (mapping.rootPairs root other) text ≠ none := fun hnone =>
      (not_matches_iff other).2 hnone h
    obtain ⟨out, hout⟩ := Option.ne_none_iff_exists'.1 hsome
    rw [rootPairs] at hout
    rw [rootPairs, hout, Option.some_or]
  · intro h
    have hnone := (not_matches_iff other).1 h
    rw [rootPairs] at hnone
    rw [hnone, Option.none_or, rootPairs]

/-- **The first match is the site of the translation.** -/
lemma IsFirstMatch.isSite (h : mapping.IsFirstMatch root text i mount k)
    (other : Mount → String) :
    IsSite (mapping.rootPairs root other) text i (root mount).toList (other mount).toList
      (text.take k) (text.drop (k + (root mount).toList.length)) := by
  refine ⟨?_, ?_, leftmostCut_of_isLeast h.least⟩
  · rw [rootPairs, List.getElem?_map, h.mount_eq]
    rfl
  · intro j hj pair hpair
    rw [rootPairs, List.getElem?_map, Option.mem_map] at hpair
    obtain ⟨earlier, hearlier, rfl⟩ := hpair
    exact forall_not_occursAt_iff.1 (h.first j hj earlier hearlier)

lemma IsFirstMatch.unique {i' k' : Nat} {mount' : Mount}
    (h : mapping.IsFirstMatch root text i mount k)
    (h' : mapping.IsFirstMatch root text i' mount' k') : i = i' ∧ mount = mount' ∧ k = k' := by
  obtain ⟨rfl, -⟩ := (h.isSite root).unique (h'.isSite root)
  obtain rfl := Option.some.inj (h.mount_eq.symm.trans h'.mount_eq)
  exact ⟨rfl, rfl, h.least.unique h'.least⟩

/-- **A mapping that matches has a first match.** -/
lemma Matches.exists_isFirstMatch (h : mapping.Matches root text) :
    ∃ i mount k, mapping.IsFirstMatch root text i mount k := by
  obtain ⟨mount, hm, hocc⟩ := h
  have hroot : ∃ pair ∈ mapping.rootPairs root root, pair.1 <:+: text :=
    ⟨_, List.mem_map_of_mem hm, exists_occursAt_iff.1 hocc⟩
  -- the search finds a site, and the site says which mount it is
  obtain ⟨i, _, _, before, after, hsite⟩ := exists_isSite hroot
  obtain ⟨found, hfound, hpair⟩ := Option.map_eq_some_iff.1 (List.getElem?_map .. ▸ hsite.pair)
  obtain ⟨rfl, rfl⟩ := Prod.mk.inj hpair
  refine ⟨i, found, before.length, hfound, ?_, hsite.cut.isLeast⟩
  intro j hj earlier hearlier
  have hpair : ((root earlier).toList, (root earlier).toList)
      ∈ (mapping.rootPairs root root)[j]? := by
    rw [rootPairs, List.getElem?_map, hearlier]
    rfl
  exact forall_not_occursAt_iff.2 (hsite.first j hj _ hpair)

/-! ## The two directions -/

lemma toContainerRoots_eq (mapping : Mapping) :
    mapping.toContainerRoots = mapping.rootPairs Mount.host Mount.container := rfl

lemma toHostRoots_eq (mapping : Mapping) :
    mapping.toHostRoots = mapping.rootPairs Mount.container Mount.host := rfl

/-- Exactly the paths that a mapping does not match are reported as not mapped. -/
lemma toContainerUri_eq_error_iff {path : String} :
    mapping.toContainerUri path = .error (.pathNotMapped (.text path))
      ↔ ¬ mapping.Matches Mount.host path.toList := by
  rw [not_matches_iff Mount.container, ← toContainerRoots_eq, toContainerUri]
  cases translate? mapping.toContainerRoots path.toList <;> simp

/-- Exactly the paths that a mapping does not match become remote, whatever the container is
called. -/
lemma forall_remotePath_iff {uri inner : String} (huri : pathOfUri uri = .ok inner) :
    (∀ container, mapping.toHostPath container uri = .ok (remotePath container inner))
      ↔ ¬ mapping.Matches Mount.container inner.toList := by
  rw [not_matches_iff Mount.host, ← toHostRoots_eq]
  cases htr : translate? mapping.toHostRoots inner.toList with
  | none => simp only [toHostPath_of_translate?_eq_none huri htr, implies_true]
  | some host =>
      refine iff_of_false ?_ (Option.some_ne_none host)
      intro h
      -- a translated path does not mention the container, and a remote one does
      simp only [toHostPath_of_translate?_eq_some huri htr, Except.ok.injEq] at h
      exact absurd (remotePath_injective inner ((h "").symm.trans (h "a"))) (by decide)

/-- Towards the container, mounts behind others are asked when those do not match. -/
lemma toContainerUri_append (mapping others : Mapping) (path : String) :
    (mapping.Matches Mount.host path.toList →
      (mapping ++ others).toContainerUri path = mapping.toContainerUri path)
    ∧ (¬ mapping.Matches Mount.host path.toList →
      (mapping ++ others).toContainerUri path = others.toContainerUri path) := by
  simp only [toContainerUri, toContainerRoots_eq]
  constructor
  · intro h
    rw [translate?_rootPairs_append.1 h]
  · intro h
    rw [translate?_rootPairs_append.2 h]

lemma toHostPath_append (mapping others : Mapping) (container : String) {uri inner : String}
    (huri : pathOfUri uri = .ok inner) :
    (mapping.Matches Mount.container inner.toList →
      (mapping ++ others).toHostPath container uri = mapping.toHostPath container uri)
    ∧ (¬ mapping.Matches Mount.container inner.toList →
      (mapping ++ others).toHostPath container uri = others.toHostPath container uri) := by
  simp only [toHostPath_eq huri, toHostRoots_eq]
  constructor
  · intro h
    rw [translate?_rootPairs_append.1 h]
  · intro h
    rw [translate?_rootPairs_append.2 h]

/-- **Both directions by positions.**  For a host path and a URI that denotes a path of the
container:

* the host path is reported as not mapped exactly when no host root has a position in it, and
  otherwise its URI is that of the path with the first match replaced;
* the URI becomes a remote path, whatever the container is called, exactly when no container root
  has a position in its path, and otherwise that path with the first match replaced;
* of two mappings behind each other the first one translates if it matches, and else the second
  one. -/
theorem translation_at_first_match (mapping : Mapping) (path : String) {uri inner : String}
    (huri : pathOfUri uri = .ok inner) :
    (mapping.toContainerUri path = .error (.pathNotMapped (.text path))
        ↔ ∀ mount ∈ mapping, ∀ k, ¬ OccursAt mount.host.toList path.toList k)
    ∧ (mapping.Matches Mount.host path.toList →
        ∃ i mount k, mapping.IsFirstMatch Mount.host path.toList i mount k
          ∧ mapping.toContainerUri path = .ok (uriOfPath (String.ofList
              (replaceAt k mount.host.toList mount.container.toList path.toList))))
    ∧ ((∀ name, mapping.toHostPath name uri = .ok ("/docker:" ++ name ++ ":" ++ inner))
        ↔ ∀ mount ∈ mapping, ∀ k, ¬ OccursAt mount.container.toList inner.toList k)
    ∧ (mapping.Matches Mount.container inner.toList →
        ∃ i mount k, mapping.IsFirstMatch Mount.container inner.toList i mount k
          ∧ ∀ name, mapping.toHostPath name uri = .ok (String.ofList
              (replaceAt k mount.container.toList mount.host.toList inner.toList)))
    ∧ ∀ others : Mapping,
        ((mapping.Matches Mount.host path.toList →
            (mapping ++ others).toContainerUri path = mapping.toContainerUri path)
          ∧ (¬ mapping.Matches Mount.host path.toList →
            (mapping ++ others).toContainerUri path = others.toContainerUri path))
        ∧ ∀ name,
          (mapping.Matches Mount.container inner.toList →
            (mapping ++ others).toHostPath name uri = mapping.toHostPath name uri)
          ∧ (¬ mapping.Matches Mount.container inner.toList →
            (mapping ++ others).toHostPath name uri = others.toHostPath name uri) := by
  refine ⟨?_, ?_, ?_, ?_, fun others => ⟨toContainerUri_append mapping others path,
    fun name => toHostPath_append mapping others name huri⟩⟩
  · simp only [toContainerUri_eq_error_iff, Matches, not_exists, not_and]
  · intro h
    obtain ⟨i, mount, k, hfirst⟩ := Matches.exists_isFirstMatch h
    exact ⟨i, mount, k, hfirst, toContainerUri_of_isSite (hfirst.isSite _)⟩
  · refine (forall_remotePath_iff huri).trans ?_
    simp only [Matches, not_exists, not_and]
  · intro h
    obtain ⟨i, mount, k, hfirst⟩ := Matches.exists_isFirstMatch h
    exact ⟨i, mount, k, hfirst, fun _ => toHostPath_of_isSite huri (hfirst.isSite _)⟩

/-- The root of the second mount can overlap with itself. -/
def repeatedMounts : Mapping := [⟨"/srv", "/x"⟩, ⟨"/a/a", "/y"⟩]

/-- The second mount's root stands at two positions that overlap, and the left one is replaced.  On
the way back the path belongs to no mount. -/
theorem translation_at_first_match_overlapping :
    pathOfUri "file:///w/%C3%A9" = .ok "/w/é"
    ∧ repeatedMounts.toContainerUri "/b/a/a/a" = .ok "file:///b/y/a"
    ∧ ∀ name, repeatedMounts.toHostPath name "file:///w/%C3%A9"
        = .ok ("/docker:" ++ name ++ ":" ++ "/w/é") := by
  have huri : pathOfUri "file:///w/%C3%A9" = .ok "/w/é" := rfl
  obtain ⟨-, hin, hremote, -, -⟩ := translation_at_first_match repeatedMounts "/b/a/a/a" huri
  have hcut : LeftmostCut "/a/a".toList "/b".toList "/a".toList "/b/a/a/a".toList :=
    leftmostCut_of_cutAt? rfl
  have hearlier : ∀ j < 1, ∀ earlier ∈ repeatedMounts[j]?,
      ¬ earlier.host.toList <:+: "/b/a/a/a".toList := by decide
  have hfirst : repeatedMounts.IsFirstMatch Mount.host "/b/a/a/a".toList 1 ⟨"/a/a", "/y"⟩ 2 :=
    ⟨rfl, fun j hj earlier hm => forall_not_occursAt_iff.2 (hearlier j hj earlier hm), hcut.isLeast⟩
  have hnone : ∀ mount ∈ repeatedMounts, ¬ mount.container.toList <:+: "/w/é".toList := by decide
  obtain ⟨i, mount, k, hfound, heq⟩ :=
    hin ⟨_, List.mem_of_getElem? hfirst.mount_eq, 2, hfirst.least.1⟩
  obtain ⟨rfl, rfl, rfl⟩ := hfirst.unique hfound
  exact ⟨huri, heq, hremote.2 fun mount hm => forall_not_occursAt_iff.2 (hnone mount hm)⟩

end ContainerClients.Mapping
