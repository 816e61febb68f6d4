/-!
# The leftmost occurrence of a word in a text

Translation between two trees of paths replaces one root by another where it first occurs.  The
search is stated as a cut: the text before the leftmost occurrence, and the text behind it.

* `cutAt?` — the cut at the leftmost occurrence, if there is one.
* `occursIn` — whether there is one.
* `replaceFirst` — the text with that occurrence replaced.

The empty word occurs in every text, at its front.
-/

namespace ContainerClients.Text

variable {α : Type} [BEq α]

/-- **The cut at the leftmost occurrence** of `word`: what stands before it and what stands
behind it. -/
def cutAt? (word : List α) : List α → Option (List α × List α)
  | [] => if word.isEmpty then some ([], []) else none
  | c :: rest =>
    if word.isPrefixOf (c :: rest) then some ([], (c :: rest).drop word.length)
    else (cutAt? word rest).map fun cut => (c :: cut.1, cut.2)

/-- The word occurs somewhere in the text. -/
def occursIn (word text : List α) : Bool := (cutAt? word text).isSome

/-- The text with the leftmost occurrence of `word` replaced by `other`; unchanged when the word
does not occur. -/
def replaceFirst (word other text : List α) : List α :=
  match cutAt? word text with
  | some (before, after) => before ++ other ++ after
  | none => text

/-! ## Laws of the cut -/

variable [LawfulBEq α]

/-- **A cut puts the text together again.** -/
theorem eq_of_cutAt? {word text before after : List α}
    (h : cutAt? word text = some (before, after)) : text = before ++ word ++ after := by
  induction text generalizing before with
  | nil =>
    rw [cutAt?] at h
    split at h
    · rename_i hw
      simp only [Option.some.injEq, Prod.mk.injEq] at h
      obtain ⟨rfl, rfl⟩ := h
      simpa using hw
    · simp at h
  | cons c rest ih =>
    rw [cutAt?] at h
    split at h
    · rename_i hw
      simp only [Option.some.injEq, Prod.mk.injEq] at h
      obtain ⟨rfl, rfl⟩ := h
      obtain ⟨t, ht⟩ := List.isPrefixOf_iff_prefix.1 hw
      rw [← ht]; simp
    · obtain ⟨cut, hc, he⟩ := Option.map_eq_some_iff.1 h
      obtain ⟨b, a⟩ := cut
      simp only [Prod.mk.injEq] at he
      obtain ⟨rfl, rfl⟩ := he
      simp [ih hc]

/-- **The cut is the leftmost:** the word is a prefix of no earlier rest of the text. -/
theorem not_prefix_of_cutAt? {word text before after : List α}
    (h : cutAt? word text = some (before, after)) {k : Nat} (hk : k < before.length) :
    ¬ word <+: text.drop k := by
  induction text generalizing before k with
  | nil =>
    rw [cutAt?] at h
    split at h
    · simp only [Option.some.injEq, Prod.mk.injEq] at h
      obtain ⟨rfl, rfl⟩ := h
      simp at hk
    · simp at h
  | cons c rest ih =>
    rw [cutAt?] at h
    split at h
    · simp only [Option.some.injEq, Prod.mk.injEq] at h
      obtain ⟨rfl, rfl⟩ := h
      simp at hk
    · rename_i hw
      obtain ⟨cut, hc, he⟩ := Option.map_eq_some_iff.1 h
      obtain ⟨b, a⟩ := cut
      simp only [Prod.mk.injEq] at he
      obtain ⟨rfl, rfl⟩ := he
      cases k with
      | zero => simpa [List.isPrefixOf_iff_prefix] using hw
      | succ k => exact ih hc (by simpa using hk)

/-- **No cut means no occurrence.** -/
theorem cutAt?_eq_none_iff {word text : List α} : cutAt? word text = none ↔ ¬ word <:+: text := by
  induction text with
  | nil =>
    rw [cutAt?]
    cases word <;> simp
  | cons c rest ih =>
    rw [cutAt?]
    split
    · rename_i hw
      simp only [reduceCtorEq, false_iff, Classical.not_not]
      exact (List.isPrefixOf_iff_prefix.1 hw).isInfix
    · rename_i hw
      rw [Option.map_eq_none_iff, ih, List.infix_cons_iff, not_or]
      rw [List.isPrefixOf_iff_prefix] at hw
      simp [hw]

theorem occursIn_iff {word text : List α} : occursIn word text = true ↔ word <:+: text := by
  rw [occursIn, Option.isSome_iff_ne_none, ne_eq, cutAt?_eq_none_iff, Classical.not_not]

end ContainerClients.Text
