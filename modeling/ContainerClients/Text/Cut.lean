import ContainerClients.Text.Blank

/-!
# Cutting a text at separators

* `cutFirst` — the text before and behind the first separator.
* `cutLast` — the text before and behind the last one.
* `pieces` — all pieces between separators; a text without one is a single piece.
* `listItems` — the pieces between commas, stripped, without the blank ones: the form in which
  the environment holds lists.
* `firstLine` — the text before the first line end of any kind.
* `cutLast_append_cons`, `eq_of_cutLast` — the last cut is the one with no separator behind it.
* `pieces_append`, `pieces_intercalate`, `intercalate_pieces` — pieces, and pieces that are joined.
* `intercalate_append` — what is joined can be joined in two parts.
* `pieces_map`, `cutLast_map` — changing characters that are no separators changes no cut.
-/

namespace ContainerClients.Text

variable {α : Type} [BEq α]

/-- **The cut at the first separator**: what stands before it and behind it. -/
def cutFirst (sep : α) : List α → Option (List α × List α)
  | [] => none
  | c :: rest =>
    if c == sep then some ([], rest)
    else (cutFirst sep rest).map fun cut => (c :: cut.1, cut.2)

/-- **The cut at the last separator.** -/
def cutLast (sep : α) : List α → Option (List α × List α)
  | [] => none
  | c :: rest =>
    match cutLast sep rest with
    | some (before, after) => some (c :: before, after)
    | none => if c == sep then some ([], rest) else none

/-- **The pieces between separators.** -/
def pieces (sep : α) : List α → List (List α)
  | [] => [[]]
  | c :: rest =>
    if c == sep then [] :: pieces sep rest
    else match pieces sep rest with
      | first :: others => (c :: first) :: others
      | [] => [[c]]

/-- The stripped pieces between commas that are not blank. -/
def listItems (s : String) : List String :=
  (((pieces ',' s.toList).map strip).filter (!·.isEmpty)).map String.ofList

/-- A line feed, carriage return or any other character that ends a line. -/
def isLineEnd (c : Char) : Bool :=
  CodePoints.has [(0x0A, 0x0D), (0x1C, 0x1E), (0x85, 0x85), (0x2028, 0x2029)] c

/-- The first line of a text, without its end. -/
def firstLine (s : List Char) : List Char := s.takeWhile (!isLineEnd ·)

/-- A text has no cut exactly when it has no separator. -/
theorem cutLast_eq_none_iff [LawfulBEq α] {sep : α} {s : List α} :
    cutLast sep s = none ↔ sep ∉ s := by
  induction s with
  | nil => simp [cutLast]
  | cons c s ih =>
    rw [cutLast, List.mem_cons, not_or, ← ih, eq_comm (a := sep)]
    cases cutLast sep s <;> simp

/-- **The last cut is where no separator follows.** -/
theorem cutLast_append_cons [LawfulBEq α] {sep : α} (front : List α) {back : List α}
    (h : sep ∉ back) : cutLast sep (front ++ sep :: back) = some (front, back) := by
  induction front with
  | nil =>
    rw [List.nil_append, cutLast, cutLast_eq_none_iff.2 h]
    exact if_pos (beq_self_eq_true sep)
  | cons c front ih => rw [List.cons_append, cutLast, ih]

/-- **What a cut tells**: the two parts around a separator, with no separator behind it. -/
theorem eq_of_cutLast [LawfulBEq α] {sep : α} {s front back : List α}
    (h : cutLast sep s = some (front, back)) : s = front ++ sep :: back ∧ sep ∉ back := by
  induction s generalizing front with
  | nil => simp [cutLast] at h
  | cons c s ih =>
    rw [cutLast] at h
    cases hs : cutLast sep s with
    | some cut =>
      simp only [hs, Option.some.injEq, Prod.mk.injEq] at h
      obtain ⟨rfl, hback⟩ := h
      obtain ⟨hcut, hnot⟩ := ih (hs.trans (congrArg some (Prod.ext rfl hback)))
      exact ⟨congrArg (c :: ·) hcut, hnot⟩
    | none =>
      simp only [hs, beq_iff_eq, Option.ite_none_right_eq_some, Option.some.injEq,
        Prod.mk.injEq] at h
      obtain ⟨rfl, rfl, rfl⟩ := h
      exact ⟨rfl, cutLast_eq_none_iff.1 hs⟩

theorem pieces_ne_nil (sep : α) (s : List α) : pieces sep s ≠ [] := by
  cases s with
  | nil => simp [pieces]
  | cons c rest =>
    rw [pieces]
    split
    · simp
    · split <;> simp

theorem pieces_cons_of_ne [LawfulBEq α] {sep c : α} (hc : c ≠ sep) {s first : List α}
    {others : List (List α)} (hs : pieces sep s = first :: others) :
    pieces sep (c :: s) = (c :: first) :: others := by
  rw [pieces, if_neg (by simpa using hc), hs]

/-- **The pieces at both sides of a separator** are the pieces of the two sides. -/
theorem pieces_append [LawfulBEq α] {sep : α} (s t : List α) :
    pieces sep (s ++ sep :: t) = pieces sep s ++ pieces sep t := by
  induction s with
  | nil => simp [pieces]
  | cons c s ih =>
    obtain ⟨first, others, hs⟩ := List.exists_cons_of_ne_nil (pieces_ne_nil sep s)
    by_cases hc : c = sep
    · rw [List.cons_append, pieces, if_pos (by simpa using hc), ih, pieces,
        if_pos (by simpa using hc), List.cons_append]
    · rw [hs, List.cons_append] at ih
      rw [List.cons_append, pieces_cons_of_ne hc hs, pieces_cons_of_ne hc ih, List.cons_append]

/-- A text without separators is one piece. -/
theorem pieces_of_not_mem [LawfulBEq α] {sep : α} {s : List α} (h : sep ∉ s) :
    pieces sep s = [s] := by
  induction s with
  | nil => rfl
  | cons c s ih =>
    rw [List.mem_cons, not_or] at h
    rw [pieces_cons_of_ne (Ne.symm h.1) (ih h.2)]

/-- **Pieces that are joined by separators are the pieces of the whole.** -/
theorem pieces_intercalate [LawfulBEq α] {sep : α} {parts : List (List α)} (hne : parts ≠ [])
    (h : ∀ part ∈ parts, sep ∉ part) : pieces sep ([sep].intercalate parts) = parts := by
  induction parts with
  | nil => exact absurd rfl hne
  | cons part others ih =>
    have hpart := pieces_of_not_mem (h part List.mem_cons_self)
    cases others with
    | nil => rw [List.intercalate_singleton, hpart]
    | cons next others =>
      have hothers := ih (List.cons_ne_nil _ _) fun each he => h each (List.mem_cons_of_mem _ he)
      rw [List.intercalate_cons_cons, List.append_assoc, List.singleton_append, pieces_append,
        hpart, hothers, List.singleton_append]

omit [BEq α] in
/-- **What is joined can be joined in two parts**, with a separator between them. -/
theorem intercalate_append {sep : List α} {xs ys : List (List α)} (hxs : xs ≠ []) (hys : ys ≠ []) :
    sep.intercalate (xs ++ ys) = sep.intercalate xs ++ sep ++ sep.intercalate ys := by
  induction xs with
  | nil => exact absurd rfl hxs
  | cons x xs ih =>
    cases xs with
    | nil =>
      rw [List.singleton_append, List.intercalate_cons_of_ne_nil hys, List.intercalate_singleton]
    | cons x' xs =>
      rw [List.cons_append, List.intercalate_cons_of_ne_nil (by simp), ih (List.cons_ne_nil _ _),
        List.intercalate_cons_cons]
      simp only [List.append_assoc]

/-- **A text is its pieces, joined by separators.** -/
theorem intercalate_pieces [LawfulBEq α] (sep : α) (s : List α) :
    [sep].intercalate (pieces sep s) = s := by
  induction s with
  | nil => rfl
  | cons c s ih =>
    by_cases hc : c = sep
    · rw [pieces, if_pos (by simpa using hc), List.intercalate_cons_of_ne_nil (pieces_ne_nil sep s),
        ih, hc]
      rfl
    · obtain ⟨first, others, hs⟩ := List.exists_cons_of_ne_nil (pieces_ne_nil sep s)
      rw [hs] at ih
      rw [pieces_cons_of_ne hc hs]
      cases others with
      | nil => rw [List.intercalate_singleton] at ih ⊢; rw [ih]
      | cons next others =>
        rw [List.intercalate_cons_cons] at ih ⊢
        rw [← ih]
        rfl

/-- A piece holds no separator. -/
theorem not_mem_of_mem_pieces [LawfulBEq α] {sep : α} {s piece : List α}
    (h : piece ∈ pieces sep s) : sep ∉ piece := by
  induction s generalizing piece with
  | nil =>
    rw [pieces, List.mem_singleton] at h
    simp [h]
  | cons c s ih =>
    obtain ⟨first, others, hs⟩ := List.exists_cons_of_ne_nil (pieces_ne_nil sep s)
    by_cases hc : c = sep
    · rw [pieces, if_pos (by simpa using hc)] at h
      rcases List.mem_cons.1 h with rfl | h
      · exact List.not_mem_nil
      · exact ih h
    · rw [pieces_cons_of_ne hc hs] at h
      rw [hs] at ih
      rcases List.mem_cons.1 h with rfl | h
      · rw [List.mem_cons, not_or]
        exact ⟨Ne.symm hc, ih List.mem_cons_self⟩
      · exact ih (List.mem_cons_of_mem _ h)

/-- **Changing characters changes no pieces**, as long as separators stay what they are. -/
theorem pieces_map {sep : α} {f : α → α} (hf : ∀ c, (f c == sep) = (c == sep)) (s : List α) :
    pieces sep (s.map f) = (pieces sep s).map (List.map f) := by
  induction s with
  | nil => rfl
  | cons c s ih =>
    rw [List.map_cons, pieces, pieces, hf, ih]
    split
    · rfl
    · cases pieces sep s <;> rfl

/-- Nor does it change the last cut. -/
theorem cutLast_map {sep : α} {f : α → α} (hf : ∀ c, (f c == sep) = (c == sep)) (s : List α) :
    cutLast sep (s.map f) = (cutLast sep s).map fun cut => (cut.1.map f, cut.2.map f) := by
  induction s with
  | nil => rfl
  | cons c s ih =>
    rw [List.map_cons, cutLast, cutLast, hf, ih]
    cases cutLast sep s with
    | some cut => rfl
    | none => cases c == sep <;> rfl

/-- **Every line end is a blank**, so a stripped text that is not empty has a first line. -/
theorem isBlank_of_isLineEnd {c : Char} (h : isLineEnd c = true) : isBlank c = true := by
  simp only [isLineEnd, isBlank, CodePoints.has_iff, blanks, List.mem_cons, List.not_mem_nil,
    or_false, exists_eq_or_imp, exists_eq_left] at h ⊢
  omega

end ContainerClients.Text
