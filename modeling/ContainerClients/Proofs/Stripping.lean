import Mathlib.Data.List.DropRight
import ContainerClients.Command

/-!
# What stripping leaves

Roots, names and the words of a command are stripped wherever they come in, and often more than
once.  What counts is that stripping leaves nothing to strip: a text is stripped when neither of its
ends is blank, and then stripping leaves it as it is.

* `dropEndWhile_isPrefix`, `head?_strip`, `getLast?_strip` — what stands at the ends.
* `strip_eq_self_iff` — a text is stripped already exactly when neither of its ends is blank.
* `strip_append_cons` — around something that is no blank, only the blanks at the ends are dropped;
  `strip_eq_nil_iff` says when there is no such thing.
* `strip_blanks_append` — blanks around a text make no difference.
* `Command.IsTidyWord` — a word that is stripped and not empty; `Command.tidy` leaves such words.
* `Command.tidy_append`, `Command.tidy_tidy` — tidying goes word by word, and once is enough.
* `Command.words_list`, `Command.isTidyWord_of_words` — the words of a command that is given as a
  list, and those of any command but a text.
-/

namespace ContainerClients.Text

/-! ## Ends of a text -/

/-- Dropping an end leaves a front. -/
lemma dropEndWhile_isPrefix {α : Type} (p : α → Bool) (xs : List α) : dropEndWhile p xs <+: xs :=
  List.rdropWhile_prefix p xs

/-- Dropping an end twice is dropping it once. -/
lemma dropEndWhile_idem {α : Type} (p : α → Bool) (xs : List α) :
    dropEndWhile p (dropEndWhile p xs) = dropEndWhile p xs :=
  List.rdropWhile_idempotent p xs

/-- Nothing is dropped exactly when the last one is to stay. -/
lemma dropEndWhile_eq_self_iff {α : Type} {p : α → Bool} {xs : List α} :
    dropEndWhile p xs = xs ↔ ∀ x ∈ xs.getLast?, p x = false := by
  refine List.rdropWhile_eq_self_iff.trans ⟨fun h x hx => ?_, fun h hne => ?_⟩
  · obtain ⟨hne, rfl⟩ := List.mem_getLast?_eq_getLast hx
    exact Bool.eq_false_iff.2 (h hne)
  · exact Bool.eq_false_iff.1 (h _ (List.getLast_mem_getLast? hne))

/-- Everything is dropped exactly when all of them are to go. -/
lemma dropEndWhile_eq_nil_iff {α : Type} {p : α → Bool} {xs : List α} :
    dropEndWhile p xs = [] ↔ ∀ x ∈ xs, p x = true :=
  List.rdropWhile_eq_nil_iff

/-- A front starts as the whole does. -/
lemma head?_of_isPrefix {α : Type} {xs ys : List α} (h : xs <+: ys) {x : α} (hx : x ∈ xs.head?) :
    x ∈ ys.head? := by
  obtain ⟨zs, rfl⟩ := h
  rw [List.head?_append, Option.mem_def.1 hx]
  rfl

/-- A stripped text starts with no blank. -/
lemma head?_strip {s : List Char} : ∀ c ∈ (strip s).head?, isBlank c = false := by
  intro c hc
  have hstart : c ∈ (s.dropWhile isBlank).head? := head?_of_isPrefix (dropEndWhile_isPrefix _ _) hc
  have hnot := List.head?_dropWhile_not isBlank s
  rw [Option.mem_def.1 hstart] at hnot
  exact hnot

/-- A stripped text ends in no blank. -/
lemma getLast?_strip {s : List Char} : ∀ c ∈ (strip s).getLast?, isBlank c = false := by
  intro c hc
  obtain ⟨hne, rfl⟩ := List.mem_getLast?_eq_getLast hc
  exact Bool.eq_false_iff.2 (List.rdropWhile_last_not isBlank (stripStart s) hne)

/-- **A text without blanks at its ends is stripped already.** -/
lemma strip_eq_self {s : List Char} (hhead : ∀ c ∈ s.head?, isBlank c = false)
    (hlast : ∀ c ∈ s.getLast?, isBlank c = false) : strip s = s := by
  have hstart : stripStart s = s := by
    cases s with
    | nil => rfl
    | cons c rest => exact List.dropWhile_cons_of_neg (Bool.eq_false_iff.1 (hhead c rfl))
  rw [strip, hstart]
  exact dropEndWhile_eq_self_iff.2 hlast

/-- Stripping twice is stripping once. -/
lemma strip_strip (s : List Char) : strip (strip s) = strip s :=
  strip_eq_self head?_strip getLast?_strip

lemma stripped_stripped (s : String) : stripped (stripped s) = stripped s := by
  rw [← String.toList_inj, toList_stripped, toList_stripped, strip_strip]

/-! ## Stripped texts -/

/-- A text starts with a blank. -/
def startsBlank (s : List Char) : Bool := s.head?.any isBlank

/-- A text ends in a blank. -/
def endsBlank (s : List Char) : Bool := s.getLast?.any isBlank

lemma startsBlank_eq_false_iff {s : List Char} :
    startsBlank s = false ↔ ∀ c ∈ s.head?, isBlank c = false := by
  cases h : s.head? <;> simp [startsBlank, h]

lemma endsBlank_eq_false_iff {s : List Char} :
    endsBlank s = false ↔ ∀ c ∈ s.getLast?, isBlank c = false := by
  cases h : s.getLast? <;> simp [endsBlank, h]

/-- **A text is stripped exactly when neither of its ends is blank.** -/
theorem strip_eq_self_iff {s : List Char} :
    strip s = s ↔ startsBlank s = false ∧ endsBlank s = false := by
  rw [startsBlank_eq_false_iff, endsBlank_eq_false_iff]
  constructor
  · intro h
    rw [← h]
    exact ⟨head?_strip, getLast?_strip⟩
  · rintro ⟨hhead, hlast⟩
    exact strip_eq_self hhead hlast

/-! ## What stands around -/

section Around

variable {α : Type} {p : α → Bool} {c : α}

lemma dropWhile_append_cons (hc : p c = false) (front back : List α) :
    (front ++ c :: back).dropWhile p = front.dropWhile p ++ c :: back := by
  induction front with
  | nil => simp [hc]
  | cons d front ih =>
      cases hd : p d with
      | true => simpa [hd] using ih
      | false => simp [hd]

lemma dropEndWhile_append_cons (hc : p c = false) (front back : List α) :
    dropEndWhile p (front ++ c :: back) = front ++ c :: dropEndWhile p back := by
  simp [dropEndWhile, dropWhile_append_cons hc]

end Around

variable {s front back before after : List Char} {c : Char}

/-- **Around something that is no blank**, the blanks in front and at the end are dropped, and only
they. -/
lemma strip_append_cons (hc : isBlank c = false) :
    strip (front ++ c :: back) = stripStart front ++ c :: stripEnd back := by
  rw [strip, stripStart, dropWhile_append_cons hc, stripEnd, dropEndWhile_append_cons hc]
  rfl

lemma stripEnd_eq_self (h : endsBlank s = false) : stripEnd s = s :=
  dropEndWhile_eq_self_iff.2 (endsBlank_eq_false_iff.1 h)

/-- A text is blank, or there is something in it. -/
lemma isBlankText_or_exists (s : List Char) :
    isBlankText s = true ∨ ∃ front c back, s = front ++ c :: back ∧ isBlank c = false := by
  by_cases h : isBlankText s = true
  · exact Or.inl h
  · simp only [isBlankText, List.all_eq_true, not_forall, Bool.not_eq_true] at h
    obtain ⟨c, hmem, hc⟩ := h
    obtain ⟨front, back, rfl⟩ := List.append_of_mem hmem
    exact Or.inr ⟨front, c, back, rfl, hc⟩

lemma stripStart_eq_nil (h : isBlankText s = true) : stripStart s = [] :=
  List.dropWhile_eq_nil_iff.2 (List.all_eq_true.1 h)

lemma stripEnd_append_blanks (h : isBlankText after = true) (s : List Char) :
    stripEnd (s ++ after) = stripEnd s := by
  rw [stripEnd, stripEnd, dropEndWhile, List.reverse_append, List.dropWhile_append_of_pos]
  · rfl
  · intro d hd
    exact List.all_eq_true.1 h d (List.mem_reverse.1 hd)

/-- **Nothing is left of a text exactly when it is blank.** -/
lemma strip_eq_nil_iff : strip s = [] ↔ isBlankText s = true := by
  constructor
  · intro h
    rcases isBlankText_or_exists s with hs | ⟨front, c, back, rfl, hc⟩
    · exact hs
    · simp [strip_append_cons hc] at h
  · intro h
    rw [strip, stripStart_eq_nil h]
    rfl

/-- Something is left of a text that starts with no blank. -/
lemma strip_ne_nil (hne : s ≠ []) (hhead : ∀ d ∈ s.head?, isBlank d = false) : strip s ≠ [] := by
  obtain ⟨d, rest, rfl⟩ := List.exists_cons_of_ne_nil hne
  intro hnil
  have hblank : isBlank d = true :=
    List.all_eq_true.1 (strip_eq_nil_iff.1 hnil) d List.mem_cons_self
  exact Bool.eq_false_iff.1 (hhead d rfl) hblank

/-- Stripping one end first makes no difference. -/
lemma strip_stripStart (s : List Char) : strip (stripStart s) = strip s := by
  rw [strip, strip, stripStart, stripStart, List.dropWhile_idempotent]

lemma strip_stripEnd (s : List Char) : strip (stripEnd s) = strip s := by
  rcases isBlankText_or_exists s with hs | ⟨front, c, back, rfl, hc⟩
  · have hnil : stripEnd s = [] := dropEndWhile_eq_nil_iff.2 (List.all_eq_true.1 hs)
    rw [hnil, strip_eq_nil_iff.2 hs]
    rfl
  · rw [stripEnd, dropEndWhile_append_cons hc, strip_append_cons hc, strip_append_cons hc, stripEnd,
      stripEnd, dropEndWhile_idem]

/-- **Blanks around a text make no difference** once it is stripped. -/
theorem strip_blanks_append (hbefore : isBlankText before = true)
    (hafter : isBlankText after = true) (s : List Char) :
    strip (before ++ s ++ after) = strip s := by
  have hstart : stripStart (before ++ s ++ after) = stripStart (s ++ after) := by
    rw [List.append_assoc]
    exact List.dropWhile_append_of_pos (List.all_eq_true.1 hbefore)
  rcases isBlankText_or_exists s with hs | ⟨front, c, back, rfl, hc⟩
  · rw [strip_eq_nil_iff.2 hs, strip_eq_nil_iff]
    simp only [isBlankText, List.all_append, Bool.and_eq_true] at hbefore hs hafter ⊢
    exact ⟨⟨hbefore, hs⟩, hafter⟩
  · rw [strip, hstart, List.append_assoc, List.cons_append, ← strip, strip_append_cons hc,
      stripEnd_append_blanks hafter, strip_append_cons hc]

end ContainerClients.Text

namespace ContainerClients.Command

open ContainerClients.Text

/-! ## Tidy words -/

/-- **A tidy word**: it is stripped, and there is something in it. -/
structure IsTidyWord (word : String) : Prop where
  /-- it is stripped -/
  stripped_eq : stripped word = word
  /-- it is not empty -/
  ne_empty : word ≠ ""

lemma tidy_append (words others : List String) :
    tidy (words ++ others) = tidy words ++ tidy others := by
  rw [tidy, List.map_append, List.filter_append]
  rfl

/-- Tidy words are left as they are. -/
lemma tidy_eq_self {words : List String} (h : ∀ word ∈ words, IsTidyWord word) :
    tidy words = words := by
  have hmap : words.map stripped = words :=
    (List.map_congr_left fun word hw => (h word hw).stripped_eq).trans (List.map_id words)
  rw [tidy, hmap, List.filter_eq_self]
  intro word hw
  simpa using (h word hw).ne_empty

/-- A word is tidy exactly when there is something in it and neither of its ends is blank. -/
lemma isTidyWord_iff {word : String} :
    IsTidyWord word
      ↔ word ≠ "" ∧ startsBlank word.toList = false ∧ endsBlank word.toList = false := by
  rw [← strip_eq_self_iff, ← toList_stripped, String.toList_inj]
  exact ⟨fun h => ⟨h.ne_empty, h.stripped_eq⟩, fun h => ⟨h.2, h.1⟩⟩

/-- What tidying leaves is tidy. -/
lemma isTidyWord_of_mem_tidy {words : List String} {word : String} (h : word ∈ tidy words) :
    IsTidyWord word := by
  obtain ⟨hmem, hne⟩ := List.mem_filter.1 h
  obtain ⟨original, -, rfl⟩ := List.mem_map.1 hmem
  exact ⟨stripped_stripped original, by simpa using hne⟩

/-- **Words are left as they are exactly when they are tidy.** -/
lemma tidy_eq_self_iff {words : List String} :
    tidy words = words ↔ ∀ word ∈ words, IsTidyWord word := by
  constructor
  · intro h word hword
    rw [← h] at hword
    exact isTidyWord_of_mem_tidy hword
  · exact tidy_eq_self

/-- **Once is enough.** -/
theorem tidy_tidy (words : List String) : tidy (tidy words) = tidy words :=
  tidy_eq_self fun _ hw => isTidyWord_of_mem_tidy hw

/-- **The words of a command that is given as a list.** -/
lemma words_list (items : List Datum) : words (.list items) = .ok (tidy (items.map Datum.shown)) :=
  rfl

/-- **The words of a command that is no text are tidy.** -/
lemma isTidyWord_of_words {command : Datum} (hcommand : ∀ s, command ≠ .text s)
    {argv : List String} (h : words command = .ok argv) : ∀ word ∈ argv, IsTidyWord word := by
  unfold words at h
  split at h
  · obtain rfl := Except.ok.inj h
    exact fun word hword => absurd hword List.not_mem_nil
  · exact absurd rfl (hcommand _)
  · split at h
    · obtain rfl := Except.ok.inj h
      exact fun word hword => isTidyWord_of_mem_tidy hword
    · contradiction

end ContainerClients.Command
