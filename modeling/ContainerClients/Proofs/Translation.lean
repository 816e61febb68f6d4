import Mathlib.Data.List.Infix
import ContainerClients.Proofs.FileUri

/-!
# Where translation replaces a root

Both directions of translation look for the first root of a list that occurs in the path, and
replace it where it first occurs.  A *site* is that place, said without the search: which root it
is, what stands before it and what stands behind it.

* `LeftmostCut` — a word in a text, with no occurrence further left.
* `IsSite` — the first root that occurs in a text, and its leftmost cut.
* `exists_isSite`, `IsSite.unique` — a text in which a root occurs has exactly one site.
* `translate?_of_isSite`, `translate?_eq_none_iff` — translation by sites.
* `toContainerUri_of_isSite`, `toHostPath_of_isSite` — the two directions by sites.
-/

namespace ContainerClients.Text

variable {α : Type}

/-- **A leftmost cut**: the text is the word with `before` and `after` around it, and the word
occurs nowhere further left. -/
structure LeftmostCut (word before after text : List α) : Prop where
  /-- the text, put together -/
  eq : text = before ++ word ++ after
  /-- every occurrence of the word has at least as much before it -/
  leftmost : ∀ b a, text = b ++ word ++ a → before.length ≤ b.length

namespace LeftmostCut

variable {word before after text : List α}

/-- The word of a leftmost cut occurs in the text. -/
lemma isInfix (h : LeftmostCut word before after text) : word <:+: text :=
  ⟨before, after, h.eq.symm⟩

/-- Equal lengths in front make equal cuts. -/
lemma eq_of_length_eq {b a : List α} (h : before ++ word ++ after = b ++ word ++ a)
    (hlen : before.length = b.length) : before = b ∧ after = a := by
  rw [List.append_assoc, List.append_assoc] at h
  obtain ⟨hb, hrest⟩ := List.append_inj h hlen
  exact ⟨hb, List.append_cancel_left hrest⟩

/-- A text has at most one leftmost cut at a word. -/
lemma unique {b a : List α} (h : LeftmostCut word before after text)
    (h' : LeftmostCut word b a text) : before = b ∧ after = a :=
  eq_of_length_eq (h.eq.symm.trans h'.eq) (Nat.le_antisymm (h.leftmost _ _ h'.eq)
    (h'.leftmost _ _ h.eq))

/-- At the front of a text a cut is leftmost. -/
lemma of_front (word after : List α) : LeftmostCut word [] after (word ++ after) :=
  ⟨rfl, fun _ _ _ => Nat.zero_le _⟩

end LeftmostCut

variable [BEq α] [LawfulBEq α] {word before after text : List α}

/-- What the search cuts is the leftmost cut. -/
lemma leftmostCut_of_cutAt? (h : cutAt? word text = some (before, after)) :
    LeftmostCut word before after text := by
  refine ⟨eq_of_cutAt? h, ?_⟩
  intro b a hb
  by_contra hlt
  refine not_prefix_of_cutAt? h (k := b.length) (by omega) ⟨a, ?_⟩
  rw [hb, List.append_assoc, List.drop_left]

/-- **The search finds exactly the leftmost cut.** -/
theorem cutAt?_eq_some_iff :
    cutAt? word text = some (before, after) ↔ LeftmostCut word before after text := by
  constructor
  · exact leftmostCut_of_cutAt?
  · intro h
    cases hcut : cutAt? word text with
    | none => exact absurd h.isInfix (cutAt?_eq_none_iff.1 hcut)
    | some cut =>
        obtain ⟨hb, ha⟩ := h.unique (leftmostCut_of_cutAt? (Prod.eta cut ▸ hcut))
        rw [hb, ha]

/-- A word that occurs has a leftmost cut. -/
lemma exists_leftmostCut (h : word <:+: text) :
    ∃ before after, LeftmostCut word before after text := by
  cases hcut : cutAt? word text with
  | none => exact absurd h (cutAt?_eq_none_iff.1 hcut)
  | some cut => exact ⟨cut.1, cut.2, leftmostCut_of_cutAt? hcut⟩

/-- Replacing puts the other word into the leftmost cut. -/
lemma replaceFirst_of_leftmostCut (h : LeftmostCut word before after text) (other : List α) :
    replaceFirst word other text = before ++ other ++ after := by
  rw [replaceFirst, cutAt?_eq_some_iff.2 h]

end ContainerClients.Text

namespace ContainerClients.Mapping

open ContainerClients.Text

/-! ## Sites -/

/-- **The site of a translation**: the root of number `i`, to be replaced by `other`, is the first
one of the list that occurs in the text, and `before` and `after` stand around its leftmost
occurrence. -/
structure IsSite (roots : List (List Char × List Char)) (text : List Char) (i : Nat)
    (root other before after : List Char) : Prop where
  /-- the root and what replaces it -/
  pair : roots[i]? = some (root, other)
  /-- no earlier root occurs in the text -/
  first : ∀ j < i, ∀ earlier ∈ roots[j]?, ¬ earlier.1 <:+: text
  /-- where the root first occurs -/
  cut : LeftmostCut root before after text

variable {roots : List (List Char × List Char)} {text : List Char} {i : Nat}
  {root other before after : List Char}

/-- A text has at most one site. -/
lemma IsSite.unique {i' : Nat} {root' other' before' after' : List Char}
    (h : IsSite roots text i root other before after)
    (h' : IsSite roots text i' root' other' before' after') :
    i = i' ∧ root = root' ∧ other = other' ∧ before = before' ∧ after = after' := by
  obtain rfl : i = i' := by
    rcases Nat.lt_trichotomy i i' with hlt | heq | hlt
    · exact absurd h.cut.isInfix (h'.first i hlt _ h.pair)
    · exact heq
    · exact absurd h'.cut.isInfix (h.first i' hlt _ h'.pair)
  have hp := h.pair.symm.trans h'.pair
  rw [Option.some.injEq, Prod.mk.injEq] at hp
  obtain ⟨rfl, rfl⟩ := hp
  obtain ⟨hb, ha⟩ := h.cut.unique h'.cut
  exact ⟨rfl, rfl, rfl, hb, ha⟩

/-- An earlier pair is passed over. -/
lemma IsSite.cons (h : IsSite roots text i root other before after)
    {earlier : List Char × List Char} (hne : ¬ earlier.1 <:+: text) :
    IsSite (earlier :: roots) text (i + 1) root other before after := by
  refine ⟨h.pair, ?_, h.cut⟩
  intro j hj pair hpair
  cases j with
  | zero =>
      obtain rfl : earlier = pair := Option.some.inj hpair
      exact hne
  | succ j => exact h.first j (by omega) pair hpair

/-- A text in which some root occurs has a site. -/
lemma exists_isSite (h : ∃ pair ∈ roots, pair.1 <:+: text) :
    ∃ i root other before after, IsSite roots text i root other before after := by
  induction roots with
  | nil =>
      obtain ⟨pair, hmem, -⟩ := h
      exact absurd hmem List.not_mem_nil
  | cons first rest ih =>
      by_cases hf : first.1 <:+: text
      · obtain ⟨before, after, hcut⟩ := exists_leftmostCut hf
        exact ⟨0, first.1, first.2, before, after, rfl, fun j hj => absurd hj (by omega), hcut⟩
      · obtain ⟨pair, hmem, hocc⟩ := h
        have hrest : pair ∈ rest := by
          rcases List.mem_cons.1 hmem with rfl | hrest
          · exact absurd hocc hf
          · exact hrest
        obtain ⟨i, root, other, before, after, hsite⟩ := ih ⟨pair, hrest, hocc⟩
        exact ⟨i + 1, root, other, before, after, hsite.cons hf⟩

/-- A site stands no later than any root that occurs. -/
lemma IsSite.le_of_isInfix (h : IsSite roots text i root other before after) {j : Nat}
    {pair : List Char × List Char} (hp : roots[j]? = some pair) (hocc : pair.1 <:+: text) :
    i ≤ j := by
  by_contra hlt
  exact h.first j (by omega) pair hp hocc

/-- A root in front of the text is the site unless an earlier one occurs. -/
lemma isSite_front_iff {rest : List Char} (hp : roots[i]? = some (root, other)) :
    IsSite roots (root ++ rest) i root other [] rest
      ↔ ∀ j < i, ∀ earlier ∈ roots[j]?, ¬ earlier.1 <:+: root ++ rest :=
  ⟨fun h => h.first, fun h => ⟨hp, h, .of_front root rest⟩⟩

/-! ## Translation by sites -/

/-- **Translation replaces the root of the site.** -/
theorem translate?_of_isSite (h : IsSite roots text i root other before after) :
    translate? roots text = some (before ++ other ++ after) := by
  induction roots generalizing i with
  | nil => exact absurd h.pair (by simp)
  | cons first rest ih =>
      rw [translate?_cons]
      cases i with
      | zero =>
          obtain rfl : first = (root, other) := Option.some.inj h.pair
          rw [if_pos (occursIn_iff.2 h.cut.isInfix), replaceFirst_of_leftmostCut h.cut]
      | succ i =>
          have hne : ¬ first.1 <:+: text := h.first 0 (by omega) first rfl
          rw [if_neg (fun hocc => hne (occursIn_iff.1 hocc))]
          exact ih ⟨h.pair, fun j hj => h.first (j + 1) (by omega), h.cut⟩

/-- Replacing a root by an absolute one keeps a path absolute. -/
lemma IsSite.absolute (h : IsSite roots text i root other before after)
    (hother : other.head? = some '/') (htext : text.head? = some '/') :
    (before ++ other ++ after).head? = some '/' := by
  cases before with
  | nil => rw [List.nil_append, List.head?_append, hother, Option.some_or]
  | cons c rest =>
      rw [h.cut.eq] at htext
      exact htext

/-- **Translation fails exactly when no root occurs.** -/
theorem translate?_eq_none_iff :
    translate? roots text = none ↔ ∀ pair ∈ roots, ¬ pair.1 <:+: text := by
  simp only [translate?, Option.map_eq_none_iff, List.find?_eq_none, occursIn_iff]

/-- What is translated is translated at a site. -/
lemma exists_isSite_of_translate? {out : List Char} (h : translate? roots text = some out) :
    ∃ i root other before after, IsSite roots text i root other before after
      ∧ out = before ++ other ++ after := by
  have hocc : ∃ pair ∈ roots, pair.1 <:+: text := by
    by_contra hnone
    rw [translate?_eq_none_iff.2 fun pair hp hocc => hnone ⟨pair, hp, hocc⟩] at h
    contradiction
  obtain ⟨i, root, other, before, after, hsite⟩ := exists_isSite hocc
  rw [translate?_of_isSite hsite, Option.some.injEq] at h
  exact ⟨i, root, other, before, after, hsite, h.symm⟩

/-! ## The two directions -/

variable {mapping : Mapping}

/-- The two directions look for opposite roots of the same mounts. -/
lemma getElem?_toHostRoots_iff :
    mapping.toHostRoots[i]? = some (root, other)
      ↔ mapping.toContainerRoots[i]? = some (other, root) := by
  simp only [toHostRoots, toContainerRoots, List.getElem?_map, Option.map_eq_some_iff,
    Prod.mk.injEq, and_comm]

lemma getElem?_toContainerRoots {mount : Mount} (h : mapping[i]? = some mount) :
    mapping.toContainerRoots[i]? = some (mount.host.toList, mount.container.toList) := by
  rw [toContainerRoots, List.getElem?_map, h]
  rfl

lemma forall_mem_toContainerRoots {n : Nat} :
    (∀ j < n, ∀ earlier ∈ mapping.toContainerRoots[j]?, ¬ earlier.1 <:+: text)
      ↔ ∀ j < n, ∀ earlier ∈ mapping[j]?, ¬ earlier.host.toList <:+: text := by
  simp [toContainerRoots, List.getElem?_map]

lemma forall_mem_toHostRoots {n : Nat} :
    (∀ j < n, ∀ earlier ∈ mapping.toHostRoots[j]?, ¬ earlier.1 <:+: text)
      ↔ ∀ j < n, ∀ earlier ∈ mapping[j]?, ¬ earlier.container.toList <:+: text := by
  simp [toHostRoots, List.getElem?_map]

/-- A path in which a host root occurs has a site. -/
lemma exists_isSite_of_mount {path : List Char}
    (h : ∃ mount ∈ mapping, mount.host.toList <:+: path) :
    ∃ i host inner before after,
      IsSite mapping.toContainerRoots path i host inner before after := by
  obtain ⟨mount, hm, hocc⟩ := h
  exact exists_isSite ⟨_, List.mem_map_of_mem hm, hocc⟩

/-- A path is translated at its site to a URI. -/
theorem toContainerUri_of_isSite {path : String}
    (h : IsSite mapping.toContainerRoots path.toList i root other before after) :
    mapping.toContainerUri path = .ok (uriOfPath (String.ofList (before ++ other ++ after))) := by
  rw [toContainerUri, translate?_of_isSite h]

/-- A path in which no host root occurs is reported as not mapped. -/
theorem toContainerUri_of_forall_not {path : String}
    (h : ∀ mount ∈ mapping, ¬ mount.host.toList <:+: path.toList) :
    mapping.toContainerUri path = .error (.pathNotMapped (.text path)) := by
  have hroots : ∀ pair ∈ mapping.toContainerRoots, ¬ pair.1 <:+: path.toList := by
    rw [toContainerRoots, List.forall_mem_map]
    exact h
  rw [toContainerUri, translate?_eq_none_iff.2 hroots]

/-- **Exactly the paths in which a host root occurs are translated.** -/
theorem toContainerUri_eq_ok_iff (mapping : Mapping) (path : String) :
    (∃ uri, mapping.toContainerUri path = .ok uri)
      ↔ ∃ mount ∈ mapping, mount.host.toList <:+: path.toList := by
  constructor
  · rintro ⟨uri, huri⟩
    by_contra hnone
    rw [toContainerUri_of_forall_not fun mount hm hocc => hnone ⟨mount, hm, hocc⟩] at huri
    contradiction
  · intro h
    obtain ⟨i, host, inner, before, after, hsite⟩ := exists_isSite_of_mount h
    exact ⟨_, toContainerUri_of_isSite hsite⟩

/-- A URI that denotes a path is translated as the path is. -/
lemma toHostPath_eq {uri path : String} (huri : pathOfUri uri = .ok path) (container : String) :
    mapping.toHostPath container uri
      = .ok (match translate? mapping.toHostRoots path.toList with
          | some host => String.ofList host
          | none => remotePath container path) := by
  rw [toHostPath, huri]
  rfl

/-- A URI whose path holds no container root becomes a remote path. -/
lemma toHostPath_of_translate?_eq_none {uri path : String} (huri : pathOfUri uri = .ok path)
    (h : translate? mapping.toHostRoots path.toList = none) (container : String) :
    mapping.toHostPath container uri = .ok (remotePath container path) := by
  rw [toHostPath_eq huri, h]

/-- A URI whose path is translated becomes what the path is translated to. -/
lemma toHostPath_of_translate?_eq_some {uri path : String} {out : List Char}
    (huri : pathOfUri uri = .ok path)
    (h : translate? mapping.toHostRoots path.toList = some out) (container : String) :
    mapping.toHostPath container uri = .ok (String.ofList out) := by
  rw [toHostPath_eq huri, h]

/-- Remote paths show the name of the container. -/
lemma remotePath_injective (path : String) : Function.Injective (remotePath · path) := by
  intro a b h
  simpa [remotePath, ← String.toList_inj] using h

/-- A URI is translated at the site of the path that it denotes. -/
theorem toHostPath_of_isSite {container uri path : String} (hpath : pathOfUri uri = .ok path)
    (h : IsSite mapping.toHostRoots path.toList i root other before after) :
    mapping.toHostPath container uri = .ok (String.ofList (before ++ other ++ after)) :=
  toHostPath_of_translate?_eq_some hpath (translate?_of_isSite h) container

end ContainerClients.Mapping
