import Mathlib.Tactic.Common
import ContainerClients.CommandLine.Invocation
import ContainerClients.Proofs.Success

/-!
# What is read of a command line

A command line is read in two passes: it is said of each word what it is, and the words are taken
one after the other.  Both passes can be cut.  What a word is does not depend on its neighbours, up
to the first separator; and what is taken does not depend on what was taken before.

* `takeWords_append` — what is read is added to what was read before, and does not depend on it.
* `next_of_takeOption`, `mem_switches_of_takeOption` — what one option takes.
* `extras_ne_nil_of_takeExtra` — a word without a meaning is left over.
* `classifyAll_append`, `classifyAll_front` — what the words are, cut in two.
* `parse_eq_ok_iff` — when a command line is read.
-/

namespace ContainerClients.CommandLine

open ContainerClients.Text

/-! ## What is read is added to what was read -/

/-- What was read first, and what was read after it.  A later positional word counts. -/
instance : Append Parsed where
  append first next :=
    { switches := first.switches ++ next.switches
      values := first.values ++ next.values
      positional := next.positional.or first.positional
      extras := first.extras ++ next.extras }

namespace Parsed

variable (first next : Parsed)

@[simp] lemma switches_append : (first ++ next).switches = first.switches ++ next.switches := rfl

@[simp] lemma values_append : (first ++ next).values = first.values ++ next.values := rfl

@[simp] lemma extras_append : (first ++ next).extras = first.extras ++ next.extras := rfl

@[simp] lemma positional_append :
    (first ++ next).positional = next.positional.or first.positional := rfl

lemma append_empty : first ++ ({} : Parsed) = first := by
  change Parsed.mk _ _ _ _ = first
  cases first
  simp

lemma switch_append (option : OptionName) :
    ({ switches := [option] } : Parsed) ++ next
      = { next with switches := option :: next.switches } := by
  change Parsed.mk _ _ (next.positional.or none) _ = _
  rw [Option.or_none]
  rfl

lemma append_switch (option : OptionName) :
    first ++ ({ switches := [option] } : Parsed)
      = { first with switches := first.switches ++ [option] } := by
  change Parsed.mk _ (_ ++ []) (none.or _) (_ ++ []) = _
  rw [List.append_nil, List.append_nil, Option.none_or]

lemma takeExtra_append (text : String) :
    (first ++ next).takeExtra text = first ++ next.takeExtra text := by
  simp only [takeExtra, switches_append, values_append, extras_append, positional_append,
    List.append_assoc]
  rfl

lemma takeSwitches_append (options : List OptionName) :
    (first ++ next).takeSwitches options = (next.takeSwitches options).map (first ++ ·) := by
  induction next, options using takeSwitches.induct with
  | case1 next => rfl
  | case2 | case3 => rfl
  | case4 next option rest hhelp hversion ih =>
    have hfront : ({ first ++ next with switches := (first ++ next).switches ++ [option] } : Parsed)
        = first ++ { next with switches := next.switches ++ [option] } := by
      rw [switches_append, List.append_assoc]
      rfl
    rw [takeSwitches, takeSwitches, hfront, ih]
    all_goals assumption

lemma takeValue_append (option : OptionName) (text : String) :
    (first ++ next).takeValue option text = (next.takeValue option text).map (first ++ ·) := by
  rw [takeValue, takeValue]
  cases optionValue option text with
  | error fault => rfl
  | ok d =>
    simp only [switches_append, values_append, extras_append, positional_append,
      List.append_assoc]
    rfl

end Parsed

namespace Grammar

variable (grammar : Grammar) (first next : Parsed)

lemma takeOption_append (option : OptionName) (spelling : String) (value : Option (List Char))
    (word : Option Word) :
    grammar.takeOption (first ++ next) option spelling value word
      = (grammar.takeOption next option spelling value word).map fun read =>
          (first ++ read.1, read.2) := by
  -- switches in front of a value, whether it is written with the option or the next word
  have hvalue (switches : List OptionName) (last : OptionName) (text : String) (used : Bool) :
      (do return (← (← (first ++ next).takeSwitches switches).takeValue last text, used))
        = (do return (← (← next.takeSwitches switches).takeValue last text, used) :
            Except Stop (Parsed × Bool)).map fun read => (first ++ read.1, read.2) := by
    rw [Parsed.takeSwitches_append]
    cases next.takeSwitches switches with
    | error stop => rfl
    | ok read =>
      simp only [Except.map, bind, Except.bind, Parsed.takeValue_append]
      cases read.takeValue last text <;> rfl
  rw [takeOption, takeOption]
  split
  · rfl
  · rename_i switches last written _
    split_ifs
    · rw [Parsed.takeSwitches_append]
      cases next.takeSwitches (switches ++ [last]) <;> rfl
    · split
      · exact hvalue ..
      · exact hvalue ..
      · rfl

/-- **What is read is added to what was read**, and does not depend on it. -/
lemma takeWords_append (expected : Option Positional) (words : List Word) :
    grammar.takeWords expected (first ++ next) words
      = (grammar.takeWords expected next words).map (first ++ ·) := by
  -- the cases that go on are the induction hypothesis; what they put into the read part first is
  -- put behind `first` as well
  induction expected, next, words using Grammar.takeWords.induct grammar with
  | case1 | case7 | case10 =>
    simp only [takeWords]
    rfl
  | case3 _ _ _ _ _ _ _ _ h =>
    simp only [takeWords, takeOption_append, h]
    rfl
  | case4 _ _ _ _ _ _ _ _ h ih | case5 _ _ _ _ _ _ _ _ h ih =>
    simp only [takeWords, takeOption_append, h]
    exact ih
  | case8 _ _ _ _ ih | case11 _ _ _ _ _ ih =>
    simp only [takeWords]
    exact ih
  | case9 _ _ _ _ ih =>
    simp only [takeWords, Parsed.takeExtra_append] at ih ⊢
    exact ih
  | case2 _ _ _ _ ih | case6 _ _ _ ih | case12 _ _ _ _ _ ih =>
    simp only [takeWords, Parsed.takeExtra_append]
    exact ih

end Grammar

/-! ## What is taken -/

lemma Parsed.eq_of_takeSwitches {parsed read : Parsed} {options : List OptionName}
    (h : parsed.takeSwitches options = .ok read) :
    read = { parsed with switches := parsed.switches ++ options } := by
  induction parsed, options using Parsed.takeSwitches.induct with
  | case1 parsed =>
    obtain rfl : parsed = read := Except.ok.inj h
    rw [List.append_nil]
  | case2 | case3 => contradiction
  | case4 parsed option rest hhelp hversion ih =>
    rw [Parsed.takeSwitches] at h
    · rw [ih h, List.append_assoc, List.singleton_append]
    all_goals assumption

lemma Parsed.exists_of_takeValue {parsed read : Parsed} {option : OptionName} {text : String}
    (h : parsed.takeValue option text = .ok read) :
    ∃ d, read = { parsed with values := parsed.values ++ [(option, d)] } := by
  rw [Parsed.takeValue] at h
  split at h
  · exact ⟨_, (Except.ok.inj h).symm⟩
  · contradiction

/-- Switches and a value behind them. -/
lemma Parsed.of_takeValue {parsed read : Parsed} {switches : List OptionName} {last : OptionName}
    {text : String} {used flag : Bool}
    (h : (do return (← (← parsed.takeSwitches switches).takeValue last text, flag) :
      Except Stop (Parsed × Bool)) = .ok (read, used)) :
    read.switches = parsed.switches ++ switches ∧ read.positional = parsed.positional
      ∧ used = flag := by
  obtain ⟨first, hfirst, h⟩ := bind_eq_ok_iff.1 h
  obtain ⟨second, hsecond, heq⟩ := bind_eq_ok_iff.1 h
  obtain ⟨rfl, rfl⟩ := Prod.mk.inj (Except.ok.inj heq)
  obtain ⟨d, rfl⟩ := exists_of_takeValue hsecond
  obtain rfl := eq_of_takeSwitches hfirst
  exact ⟨rfl, rfl, rfl⟩

namespace Grammar

variable {grammar : Grammar} {parsed read : Parsed} {option : OptionName} {spelling : String}
  {value : Option (List Char)}

/-- An option is one of those that are written together with it. -/
lemma mem_of_cluster {short : Bool} {switches : List OptionName} {last : OptionName}
    {written : Option String}
    (h : grammar.cluster option short value = .ok (switches, last, written)) :
    option ∈ switches ++ [last] := by
  cases value with
  | none =>
    obtain ⟨rfl, rfl, -⟩ : [] = switches ∧ option = last ∧ none = written := by
      simpa [cluster] using h
    exact List.mem_singleton_self option
  | some value =>
    rw [cluster] at h
    induction option, value using cluster.go.induct grammar short generalizing switches with
    | case1 option hvalue | case3 option _ _ hvalue =>
      rw [cluster.go, if_pos hvalue] at h
      obtain ⟨rfl, rfl, -⟩ : [] = switches ∧ option = last ∧ _ := by simpa using h
      exact List.mem_singleton_self option
    | case2 option hvalue =>
      rw [cluster.go, if_neg hvalue] at h
      contradiction
    | case4 option c rest hvalue hshort =>
      rw [cluster.go, if_neg hvalue, if_pos hshort] at h
      contradiction
    | case5 option c rest hvalue hshort hnone =>
      rw [cluster.go, if_neg hvalue, if_neg hshort, hnone] at h
      contradiction
    | case6 option c rest hvalue hshort next hnext hempty =>
      rw [cluster.go, if_neg hvalue, if_neg hshort, hnext] at h
      dsimp only at h
      rw [if_pos hempty] at h
      obtain ⟨rfl, rfl, -⟩ : [option] = switches ∧ next = last ∧ _ := by simpa using h
      exact List.mem_cons_self
    | case7 option c rest hvalue hshort next hnext hempty ih =>
      rw [cluster.go, if_neg hvalue, if_neg hshort, hnext] at h
      dsimp only at h
      rw [if_neg hempty] at h
      obtain ⟨⟨others, last, written⟩, -, heq⟩ := map_eq_ok_iff.1 h
      obtain ⟨rfl, -⟩ := Prod.mk.inj heq
      exact List.mem_cons_self

/-- **A word that stands for a switch** adds it. -/
lemma mem_switches_of_takeOption {word : Option Word} {used : Bool}
    (hvalue : option.takesValue = false)
    (h : grammar.takeOption parsed option spelling value word = .ok (read, used)) :
    option ∈ read.switches := by
  rw [takeOption] at h
  split at h
  · contradiction
  · rename_i switches last written hcluster
    have hmem := mem_of_cluster hcluster
    split_ifs at h with hlast
    · obtain ⟨taken, htaken, heq⟩ := map_eq_ok_iff.1 h
      obtain rfl : taken = read := congrArg Prod.fst heq
      rw [Parsed.eq_of_takeSwitches htaken]
      exact List.mem_append_right _ hmem
    · -- the last option takes a value, so this is one of those in front of it
      have hne : option ≠ last := by
        rintro rfl
        simp [hvalue] at hlast
      have hswitches : option ∈ switches := by
        rcases List.mem_append.1 hmem with hmem | hmem
        · exact hmem
        · exact absurd (List.mem_singleton.1 hmem) hne
      split at h
      · rw [(Parsed.of_takeValue h).1]
        exact List.mem_append_right _ hswitches
      · rw [(Parsed.of_takeValue h).1]
        exact List.mem_append_right _ hswitches
      · contradiction

/-- An option is not a positional word. -/
lemma positional_of_takeOption {word : Option Word} {used : Bool}
    (h : grammar.takeOption parsed option spelling value word = .ok (read, used)) :
    read.positional = parsed.positional := by
  rw [takeOption] at h
  split at h
  · contradiction
  · split_ifs at h
    · obtain ⟨taken, htaken, heq⟩ := map_eq_ok_iff.1 h
      obtain rfl : taken = read := congrArg Prod.fst heq
      rw [Parsed.eq_of_takeSwitches htaken]
    · split at h
      · exact (Parsed.of_takeValue h).2.1
      · exact (Parsed.of_takeValue h).2.1
      · contradiction

/-- **A value is looked for in the next word** or not at all. -/
lemma next_of_takeOption {word : Option Word} {used : Bool}
    (h : grammar.takeOption parsed option spelling value word = .ok (read, used)) :
    (used = false
        ∧ ∀ next, grammar.takeOption parsed option spelling value next = .ok (read, false))
      ∨ (used = true ∧ ∃ text, word = some ⟨text, .argument⟩) := by
  rw [takeOption] at h
  split at h
  · contradiction
  · rename_i switches last written hcluster
    split_ifs at h with hlast
    · obtain ⟨taken, htaken, heq⟩ := map_eq_ok_iff.1 h
      obtain ⟨rfl, rfl⟩ := Prod.mk.inj heq
      refine .inl ⟨rfl, fun next => ?_⟩
      rw [takeOption, hcluster]
      dsimp only
      rw [if_pos hlast, htaken]
      rfl
    · split at h
      · obtain ⟨-, -, rfl⟩ := Parsed.of_takeValue h
        refine .inl ⟨rfl, fun next => ?_⟩
        rw [takeOption, hcluster]
        dsimp only
        rw [if_neg hlast]
        exact h
      · obtain ⟨-, -, rfl⟩ := Parsed.of_takeValue h
        exact .inr ⟨rfl, _, rfl⟩
      · contradiction

/-- An option without a value in the next word takes the same whatever stands behind it. -/
lemma takeOption_next {word : Option Word}
    (h : grammar.takeOption parsed option spelling value word = .ok (read, false))
    (next : Option Word) :
    grammar.takeOption parsed option spelling value next = .ok (read, false) := by
  obtain ⟨-, hnext⟩ := (next_of_takeOption h).resolve_right (by simp)
  exact hnext next

/-- The value of an option in the next word is no option itself. -/
lemma exists_argument_of_takeOption {words : List Word}
    (h : grammar.takeOption parsed option spelling value words.head? = .ok (read, true)) :
    ∃ text rest, words = ⟨text, .argument⟩ :: rest := by
  obtain ⟨-, text, hhead⟩ := (next_of_takeOption h).resolve_left (by simp)
  exact ⟨text, _, List.eq_cons_of_mem_head? hhead⟩

lemma exists_append_of_takeWords {expected : Option Positional} {words : List Word}
    (h : grammar.takeWords expected parsed words = .ok read) :
    ∃ later, grammar.takeWords expected {} words = .ok later ∧ read = parsed ++ later := by
  rw [← parsed.append_empty, takeWords_append] at h
  obtain ⟨later, hlater, heq⟩ := map_eq_ok_iff.1 h
  exact ⟨later, hlater, heq.symm⟩

/-- **A word without a meaning is left over**, whatever comes behind it. -/
lemma extras_ne_nil_of_takeExtra {expected : Option Positional} {extra : String}
    {words : List Word}
    (h : grammar.takeWords expected (parsed.takeExtra extra) words = .ok read) :
    read.extras ≠ [] := by
  obtain ⟨later, -, rfl⟩ := exists_append_of_takeWords h
  simp [Parsed.takeExtra]

end Grammar

/-! ## What the words are -/

namespace Grammar

variable {grammar : Grammar}

/-- Saying what the words are leaves the words. -/
lemma map_text_of_classifyAll {words : List String} {classes : List Word}
    (h : grammar.classifyAll words = .ok classes) : classes.map Word.text = words := by
  induction words generalizing classes with
  | nil =>
    obtain rfl := Except.ok.inj h
    rfl
  | cons word rest ih =>
    rw [classifyAll] at h
    split_ifs at h
    · obtain rfl := Except.ok.inj h
      rw [List.map_cons, List.map_map]
      exact congrArg (List.cons word) (List.map_id rest)
    · obtain ⟨cls, hcls, h⟩ := bind_eq_ok_iff.1 h
      obtain ⟨others, hothers, h⟩ := bind_eq_ok_iff.1 h
      obtain rfl := Except.ok.inj h
      rw [List.map_cons, ih hothers]

lemma separator_not_mem_candidates (word : List Char) :
    WordClass.separator ∉ grammar.candidates word := by
  intro hmem
  unfold candidates at hmem
  split at hmem
  · obtain ⟨entry, -, heq⟩ := List.mem_filterMap.1 hmem
    split at heq <;> simp at heq
  · obtain ⟨entry, -, heq⟩ := List.mem_filterMap.1 hmem
    split_ifs at heq <;> simp at heq

/-- Neither is anything else that a word is before the first `--`. -/
lemma classify_ne_separator (word : String) : grammar.classify word ≠ .ok .separator := by
  intro h
  rw [classify] at h
  split at h
  · cases h
  · split at h
    · cases h
    · split at h
      · cases h
      · split at h
        · rename_i hassigned
          obtain rfl := Except.ok.inj h
          unfold assigned? at hassigned
          split at hassigned <;> simp at hassigned
        · split at h
          · rename_i hcandidates
            obtain rfl := Except.ok.inj h
            exact separator_not_mem_candidates _ (hcandidates ▸ List.mem_cons_self)
          · split at h <;> cases h
          · cases h

lemma forall_ne_separator {words : List String} {classes : List Word}
    (h : grammar.classifyAll words = .ok classes) (hnone : "--" ∉ words) :
    ∀ word ∈ classes, word.cls ≠ .separator := by
  induction words generalizing classes with
  | nil =>
    obtain rfl := Except.ok.inj h
    exact fun word hmem => absurd hmem List.not_mem_nil
  | cons word rest ih =>
    obtain ⟨hword, hrest⟩ := not_or.1 fun hmem => hnone (List.mem_cons.2 hmem)
    rw [classifyAll, if_neg fun heq => hword heq.symm] at h
    obtain ⟨cls, hcls, h⟩ := bind_eq_ok_iff.1 h
    obtain ⟨others, hothers, h⟩ := bind_eq_ok_iff.1 h
    obtain rfl := Except.ok.inj h
    refine List.forall_mem_cons.2 ⟨?_, ih hothers hrest⟩
    rintro rfl
    exact classify_ne_separator word hcls

/-- What each word is, is said word by word up to the first separator. -/
lemma classifyAll_append {front : List String} {classes : List Word}
    (h : grammar.classifyAll front = .ok classes) (hnone : ∀ word ∈ classes, word.cls ≠ .separator)
    (words : List String) :
    grammar.classifyAll (front ++ words) = (grammar.classifyAll words).map (classes ++ ·) := by
  induction front generalizing classes with
  | nil =>
    obtain rfl := Except.ok.inj h
    rw [List.nil_append]
    cases grammar.classifyAll words <;> rfl
  | cons word rest ih =>
    rw [classifyAll] at h
    split_ifs at h with hword
    · obtain rfl := Except.ok.inj h
      exact absurd rfl (hnone _ List.mem_cons_self)
    · obtain ⟨cls, hcls, h⟩ := bind_eq_ok_iff.1 h
      obtain ⟨others, hothers, h⟩ := bind_eq_ok_iff.1 h
      obtain rfl := Except.ok.inj h
      rw [List.cons_append, classifyAll, if_neg hword, hcls,
        ih hothers fun other hmem => hnone other (List.mem_cons_of_mem _ hmem)]
      cases grammar.classifyAll words <;> rfl

/-- So it is said of the words in front, whatever stands behind them. -/
lemma classifyAll_front {words : List String} {front rest : List Word}
    (h : grammar.classifyAll words = .ok (front ++ rest))
    (hnone : ∀ word ∈ front, word.cls ≠ .separator) :
    grammar.classifyAll (front.map Word.text) = .ok front := by
  induction front generalizing words with
  | nil => rfl
  | cons first front ih =>
    cases words with
    | nil => cases Except.ok.inj h
    | cons word words =>
      rw [classifyAll] at h
      split_ifs at h with hword
      · obtain ⟨rfl, -⟩ := List.cons.inj (Except.ok.inj h)
        exact absurd rfl (hnone _ List.mem_cons_self)
      · obtain ⟨cls, hcls, h⟩ := bind_eq_ok_iff.1 h
        obtain ⟨others, hothers, h⟩ := bind_eq_ok_iff.1 h
        obtain ⟨rfl, rfl⟩ := List.cons.inj (Except.ok.inj h)
        rw [List.map_cons, classifyAll, if_neg hword, hcls,
          ih hothers fun other hmem => hnone other (List.mem_cons_of_mem _ hmem)]
        rfl

end Grammar

/-! ## Command lines -/

/-- **When a command line is read**: it is said of each word what it is, the words are taken, and a
positional word that has to be there is. -/
lemma Grammar.parse_eq_ok_iff {grammar : Grammar} {words : List String} {read : Parsed} :
    grammar.parse words = .ok read
      ↔ ∃ classes, grammar.classifyAll words = .ok classes
        ∧ grammar.takeWords grammar.positional {} classes = .ok read
        ∧ ∀ name, grammar.positional = some (.single name) → read.positional ≠ none := by
  rw [parse]
  cases grammar.classifyAll words with
  | error fault => simp
  | ok classes =>
    cases htaken : grammar.takeWords grammar.positional {} classes with
    | error stop => simp [htaken]
    | ok taken =>
      simp only [htaken, Except.ok.injEq, exists_eq_left']
      split
      · rename_i name hname hnone
        simp only [reduceCtorEq, false_iff, not_and, not_forall]
        rintro rfl
        exact ⟨name, hname, fun hne => hne hnone⟩
      · rename_i hmissing
        rw [Except.ok.injEq, iff_self_and]
        rintro rfl name hname hnone
        exact hmissing name hname hnone

end ContainerClients.CommandLine
