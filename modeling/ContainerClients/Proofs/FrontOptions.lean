import ContainerClients.Proofs.TakenWords

/-!
# The options in front of a subcommand

The program has options of its own, which stand in front of the subcommand.  All words behind the
subcommand are left to it.

* `takeWords_append_subcommand`, `exists_of_takeWords_subcommand` — the subcommand is found behind
  options, and nowhere else.
* `IsFront` — words that are options of the program, and nothing else.
* `IsFront.invocation_eq_ok_iff` — what a command line asks for, by what its subcommand reads.
* **`exists_isFront`** — every command line with a subcommand has such words in front of it.
-/

namespace ContainerClients.CommandLine

open ContainerClients.Text

/-! ## Finding the subcommand -/

namespace Grammar

variable {grammar : Grammar} {parsed read : Parsed}

/-- **Options in front of a subcommand** are read, and the subcommand is found behind them.  There
is no separator among them, because it would be left over. -/
lemma takeWords_append_subcommand {front : List Word}
    (h : grammar.takeWords (some .subcommand) parsed front = .ok read)
    (hpositional : read.positional = none) (hextras : read.extras = []) :
    (∀ word ∈ front, word.cls ≠ .separator)
      ∧ ∀ text rest,
          grammar.takeWords (some .subcommand) parsed (front ++ ⟨text, .argument⟩ :: rest)
            = .ok { read with positional := some (text :: rest.map Word.text) } := by
  generalize hexpected : some Positional.subcommand = expected at h
  induction expected, parsed, front using Grammar.takeWords.induct grammar with
  | case1 expected parsed =>
    cases hexpected
    obtain rfl : parsed = read := by simpa [takeWords] using h
    refine ⟨fun word hmem => absurd hmem List.not_mem_nil, fun text rest => ?_⟩
    rw [List.nil_append, takeWords]
  | case2 =>
    rw [takeWords] at h
    exact absurd hextras (extras_ne_nil_of_takeExtra h)
  | case3 _ _ _ _ _ _ _ _ hoption =>
    rw [takeWords, hoption] at h
    contradiction
  | case4 _ _ _ _ _ _ front _ hoption ih =>
    rw [takeWords, hoption] at h
    obtain ⟨hnone, hbehind⟩ := ih hexpected h
    refine ⟨List.forall_mem_cons.2 ⟨by simp, hnone⟩, fun text rest => ?_⟩
    rw [List.cons_append, takeWords, takeOption_next hoption]
    exact hbehind text rest
  | case5 _ _ _ _ _ _ front _ hoption ih =>
    rw [takeWords, hoption] at h
    obtain ⟨value, front, rfl⟩ := exists_argument_of_takeOption hoption
    obtain ⟨hnone, hbehind⟩ := ih hexpected h
    refine ⟨List.forall_mem_cons.2 ⟨by simp, List.forall_mem_cons.2 ⟨by simp, hnone⟩⟩,
      fun text rest => ?_⟩
    rw [List.head?_cons] at hoption
    rw [List.cons_append, List.cons_append, takeWords, List.head?_cons, hoption]
    exact hbehind text rest
  | case7 | case10 =>
    rw [takeWords] at h
    obtain rfl := Except.ok.inj h
    contradiction
  | case12 _ _ _ _ hne =>
    rw [takeWords] at h
    · exact absurd hextras (extras_ne_nil_of_takeExtra h)
    · exact hne
  | case6 | case8 | case9 | case11 => cases hexpected

/-- **A subcommand stands behind options only**, or it is a separator. -/
lemma exists_of_takeWords_subcommand {words : List Word} {positional : List String}
    (h : grammar.takeWords (some .subcommand) parsed words = .ok read)
    (hparsed : parsed.positional = none) (hread : read.positional = some positional)
    (hextras : read.extras = []) :
    ∃ front word rest, words = front ++ word :: rest
      ∧ positional = word.text :: rest.map Word.text
      ∧ grammar.takeWords (some .subcommand) parsed front
        = .ok { read with positional := none } := by
  generalize hexpected : some Positional.subcommand = expected at h ⊢
  induction expected, parsed, words using Grammar.takeWords.induct grammar with
  | case1 expected parsed =>
    obtain rfl : parsed = read := by simpa [takeWords] using h
    rw [hparsed] at hread
    contradiction
  | case2 =>
    rw [takeWords] at h
    exact absurd hextras (extras_ne_nil_of_takeExtra h)
  | case3 _ _ _ _ _ _ _ _ hoption =>
    rw [takeWords, hoption] at h
    contradiction
  | case4 _ _ text option spelling value _ _ hoption ih =>
    rw [takeWords, hoption] at h
    obtain ⟨front, word, rest, rfl, hword, hfront⟩ :=
      ih ((positional_of_takeOption hoption).trans hparsed) hexpected h
    refine ⟨⟨text, .option option spelling value⟩ :: front, word, rest, rfl, hword, ?_⟩
    rw [takeWords, takeOption_next hoption]
    exact hfront
  | case5 _ _ text option spelling value _ _ hoption ih =>
    rw [takeWords, hoption] at h
    obtain ⟨given, behind, rfl⟩ := exists_argument_of_takeOption hoption
    obtain ⟨front, word, rest, rfl, hword, hfront⟩ :=
      ih ((positional_of_takeOption hoption).trans hparsed) hexpected h
    refine ⟨⟨text, .option option spelling value⟩ :: ⟨given, .argument⟩ :: front, word, rest, rfl,
      hword, ?_⟩
    rw [List.head?_cons] at hoption
    rw [takeWords, List.head?_cons, hoption]
    exact hfront
  | case7 parsed text rest | case10 parsed text word rest =>
    rw [takeWords] at h
    obtain rfl := Except.ok.inj h
    obtain rfl := Option.some.inj hread
    refine ⟨[], _, _, rfl, rfl, ?_⟩
    rw [takeWords, ← hparsed]
  | case12 _ _ _ _ hne =>
    rw [takeWords] at h
    · exact absurd hextras (extras_ne_nil_of_takeExtra h)
    · exact hne
  | case6 | case8 | case9 | case11 => cases hexpected

end Grammar

namespace Subcommand

lemma classify_word (subcommand : Subcommand) :
    topGrammar.classify subcommand.word = .ok .argument := by
  cases subcommand <;> decide +kernel

lemma word_of_ofWord? {word : String} {subcommand : Subcommand}
    (h : ofWord? word = some subcommand) : subcommand.word = word := by
  have hfound := List.find?_some h
  exact beq_iff_eq.1 hfound

lemma word_ne_separator (subcommand : Subcommand) : subcommand.word ≠ "--" := by
  cases subcommand <;> decide

end Subcommand

/-! ## The program's own options -/

/-- **The program's own options**: nothing else is among these words. -/
structure IsFront (front : List String) (top : Parsed) : Prop where
  /-- what the words are read as -/
  parse_eq : topGrammar.parse front = .ok top
  /-- there is no subcommand among them -/
  positional_eq : top.positional = none
  /-- all of them have a meaning -/
  extras_eq : top.extras = []

namespace IsFront

variable {front words : List String} {top : Parsed}

/-- Behind the program's own options, the words of a subcommand are found as they are. -/
lemma parse_append (h : IsFront front top) (subcommand : Subcommand) {others : List Word}
    (hwords : topGrammar.classifyAll words = .ok others) :
    topGrammar.parse (front ++ subcommand.word :: words)
      = .ok { top with positional := some (subcommand.word :: words) } := by
  obtain ⟨classes, hclasses, htaken, -⟩ := Grammar.parse_eq_ok_iff.1 h.parse_eq
  obtain ⟨hnone, hbehind⟩ :=
    Grammar.takeWords_append_subcommand htaken h.positional_eq h.extras_eq
  have hall : topGrammar.classifyAll (front ++ subcommand.word :: words)
      = .ok (classes ++ ⟨subcommand.word, .argument⟩ :: others) := by
    rw [Grammar.classifyAll_append hclasses hnone, Grammar.classifyAll,
      if_neg subcommand.word_ne_separator, subcommand.classify_word, hwords]
    rfl
  refine Grammar.parse_eq_ok_iff.2 ⟨_, hall, ?_, fun name hname => Option.some_ne_none _⟩
  rw [← Grammar.map_text_of_classifyAll hwords]
  exact hbehind _ _

/-- A command line is only accepted when it can be said of every word what it is. -/
lemma exists_classes (h : IsFront front top) (subcommand : Subcommand) {invocation : Invocation}
    (hparse : Invocation.parse (front ++ subcommand.word :: words) = .ok invocation) :
    ∃ others, topGrammar.classifyAll words = .ok others := by
  obtain ⟨read, hread⟩ :
      ∃ read, topGrammar.parse (front ++ subcommand.word :: words) = .ok read := by
    rw [Invocation.parse] at hparse
    split at hparse
    · contradiction
    · exact ⟨_, by assumption⟩
  obtain ⟨classes, hclasses, htaken, -⟩ := Grammar.parse_eq_ok_iff.1 h.parse_eq
  obtain ⟨hnone, -⟩ := Grammar.takeWords_append_subcommand htaken h.positional_eq h.extras_eq
  obtain ⟨all, hall, -⟩ := Grammar.parse_eq_ok_iff.1 hread
  rw [Grammar.classifyAll_append hclasses hnone, Grammar.classifyAll,
    if_neg subcommand.word_ne_separator, subcommand.classify_word] at hall
  obtain ⟨behind, hbehind, -⟩ := map_eq_ok_iff.1 hall
  obtain ⟨cls, -, hrest⟩ := bind_eq_ok_iff.1 hbehind
  obtain ⟨others, hothers, -⟩ := bind_eq_ok_iff.1 hrest
  exact ⟨others, hothers⟩

/-- **What a command line asks for**, by what the subcommand reads behind the program's options. -/
lemma invocation_eq_ok_iff (h : IsFront front top) (subcommand : Subcommand) {others : List Word}
    (hwords : topGrammar.classifyAll words = .ok others) {invocation : Invocation} :
    Invocation.parse (front ++ subcommand.word :: words) = .ok invocation
      ↔ ∃ read, subcommand.grammar.parse words = .ok read ∧ read.extras = []
        ∧ ⟨top.has .verbose, top.value .runtime, read.task subcommand⟩ = invocation := by
  rw [Invocation.parse, h.parse_append subcommand hwords]
  dsimp only
  rw [Option.getD_some, Invocation.parseTask, Subcommand.ofWord?_word]
  dsimp only
  cases subcommand.grammar.parse words with
  | error stop => simp
  | ok read =>
    rw [h.extras_eq]
    dsimp only
    rw [List.nil_append]
    by_cases hextras : read.extras = []
    · simp only [hextras, List.isEmpty_nil, if_true, Except.ok.injEq, exists_eq_left', true_and]
      rfl
    · simp [hextras]

end IsFront

/-- **Every command line with a subcommand has the program's own options in front of it**, and
nothing else. -/
theorem exists_isFront {line : List String} {invocation : Invocation}
    (h : Invocation.parse line = .ok invocation) (htask : invocation.task ≠ .showHelp) :
    ∃ front top, IsFront front top
      ∧ ∃ subcommand words, line = front ++ Subcommand.word subcommand :: words := by
  rw [Invocation.parse] at h
  cases hparse : topGrammar.parse line with
  | error stop =>
    rw [hparse] at h
    contradiction
  | ok read =>
    rw [hparse] at h
    dsimp only at h
    obtain ⟨classes, hclasses, htaken, -⟩ := Grammar.parse_eq_ok_iff.1 hparse
    cases hpositional : read.positional with
    | none =>
      -- without a subcommand, the help text is asked for
      rw [hpositional, Option.getD_none, Invocation.parseTask] at h
      dsimp only at h
      split_ifs at h
      obtain rfl := Except.ok.inj h
      exact absurd rfl htask
    | some positional =>
      have hextras : read.extras = [] := by
        split at h
        · contradiction
        · split_ifs at h with hempty
          exact (List.append_eq_nil_iff.1 (List.isEmpty_iff.1 hempty)).1
      obtain ⟨front, word, rest, rfl, rfl, hfront⟩ :=
        Grammar.exists_of_takeWords_subcommand htaken rfl hpositional hextras
      obtain ⟨hnone, -⟩ := Grammar.takeWords_append_subcommand hfront rfl hextras
      have hparsed : topGrammar.parse (front.map Word.text)
          = .ok { read with positional := none } :=
        Grammar.parse_eq_ok_iff.2
          ⟨front, Grammar.classifyAll_front hclasses hnone, hfront, nofun⟩
      refine ⟨_, _, ⟨hparsed, rfl, hextras⟩, ?_⟩
      rw [hpositional, Option.getD_some, Invocation.parseTask] at h
      cases hword : Subcommand.ofWord? word.text with
      | none =>
        rw [hword] at h
        contradiction
      | some subcommand =>
        refine ⟨subcommand, rest.map Word.text, ?_⟩
        rw [← Grammar.map_text_of_classifyAll hclasses, List.map_append, List.map_cons,
          Subcommand.word_of_ofWord? hword]

end ContainerClients.CommandLine
