import ContainerClients.Proofs.FrontOptions

/-!
# The same words ask for the same

The command of a client is shown by one subcommand and run by another.  Both take the options that
configure a catalog, and an id; the first takes `--json` besides.  What the words behind them mean
is decided in two passes, and each pass knows all options of its place, so that one option more
might change what other words mean: a shortened option may become ambiguous, and a word that was
none may become an option.  It does not, as long as no word is read as `--json`.

* `classify_of_withJson`, `takeWords_withJson` — the two passes with `--json` and without it.
* `json_mem_switches` — a word that stands for `--json` is never overlooked.
* `parse_of_withJson` — a line without `--json`.
* `parse_json_cons`, `parse_json_concat` — a line with `--json` in front, and behind.
* **`parse_siblings`** — the words of one subcommand behind the other, and with `--json`.
-/

namespace ContainerClients.CommandLine

open ContainerClients.Text

/-! ## One more option -/

/-- A word that stands for `--json`. -/
def WordClass.IsJson (cls : WordClass) : Prop :=
  ∃ spelling value, cls = .option .json spelling value

namespace Grammar

variable (grammar : Grammar)

/-- A grammar that also takes `--json`. -/
def withJson (grammar : Grammar) : Grammar := { grammar with options := grammar.options ++ [.json] }

lemma spellings_withJson :
    grammar.withJson.spellings = grammar.spellings ++ [("--json", .json)] := by
  rw [spellings, withJson, List.flatMap_append]
  rfl

/-- Only `--json` itself is a spelling that the other grammar does not have. -/
lemma option?_withJson (spelling : String) :
    grammar.withJson.option? spelling
      = (grammar.option? spelling).or (if spelling = "--json" then some .json else none) := by
  rw [option?, option?, spellings_withJson, List.find?_append, Option.map_or]
  congr 1
  rw [List.find?_singleton]
  by_cases h : spelling = "--json"
  · simp [h]
  · have hne : ¬ "--json" = spelling := fun e => h e.symm
    simp [h, hne]

/-- An option that is written in full before a `=` is one of both grammars, or `--json`. -/
lemma assigned?_withJson (word : List Char) :
    grammar.withJson.assigned? word = grammar.assigned? word
      ∨ ∃ cls, grammar.withJson.assigned? word = some cls ∧ cls.IsJson := by
  rw [assigned?, assigned?]
  split
  · rename_i name value _
    rw [option?_withJson]
    cases grammar.option? (String.ofList name) with
    | some option => exact .inl rfl
    | none =>
      by_cases hname : String.ofList name = "--json"
      · refine .inr ⟨_, ?_, String.ofList name, some value, rfl⟩
        rw [if_pos hname]
        rfl
      · exact .inl (by rw [if_neg hname, Option.or_none])
  · exact .inl rfl

/-- What a word may be short for is the same in both grammars, and `--json` besides. -/
lemma candidates_withJson (word : List Char) :
    ∃ others, grammar.withJson.candidates word = grammar.candidates word ++ others
      ∧ ∀ cls ∈ others, cls.IsJson := by
  unfold candidates
  split
  · rw [spellings_withJson]
    split
    rw [List.filterMap_append]
    refine ⟨_, rfl, fun cls hcls => ?_⟩
    simp only [List.filterMap_cons, List.filterMap_nil] at hcls
    split_ifs at hcls
    · exact ⟨_, _, List.mem_singleton.1 hcls⟩
    · exact absurd hcls List.not_mem_nil
  · rw [spellings_withJson, List.filterMap_append]
    refine ⟨_, rfl, fun cls hcls => ?_⟩
    simp only [List.filterMap_cons, List.filterMap_nil] at hcls
    split_ifs at hcls
    · exact ⟨_, _, List.mem_singleton.1 hcls⟩
    · exact ⟨_, _, List.mem_singleton.1 hcls⟩
    · exact absurd hcls List.not_mem_nil

variable {grammar} in
/-- **What a word is does not depend on whether there is `--json`**, unless it stands for that. -/
lemma classify_of_withJson {word : String} {cls : WordClass}
    (h : grammar.withJson.classify word = .ok cls) (hjson : ¬ cls.IsJson) :
    grammar.classify word = .ok cls := by
  rw [classify] at h ⊢
  by_cases hdash : (word.toList.head? != some '-') = true
  · rw [if_pos hdash] at h ⊢
    exact h
  rw [if_neg hdash] at h ⊢
  rw [option?_withJson] at h
  cases hoption : grammar.option? word with
  | some option =>
    rw [hoption] at h
    exact h
  | none =>
    rw [hoption, Option.none_or] at h
    by_cases hword : word = "--json"
    · rw [if_pos hword] at h
      exact absurd ⟨_, _, (Except.ok.inj h).symm⟩ hjson
    rw [if_neg hword] at h
    dsimp only at h ⊢
    by_cases hlength : word.toList.length = 1
    · rw [if_pos hlength] at h ⊢
      exact h
    rw [if_neg hlength] at h ⊢
    rcases grammar.assigned?_withJson word.toList with hsame | ⟨other, hother, hcls⟩
    · rw [hsame] at h
      cases hassigned : grammar.assigned? word.toList with
      | some other =>
        rw [hassigned] at h
        exact h
      | none =>
        rw [hassigned] at h
        obtain ⟨others, heq, hothers⟩ := grammar.candidates_withJson word.toList
        rw [heq] at h
        -- a single candidate that is not `--json` leaves nothing besides
        cases hown : grammar.candidates word.toList with
        | nil =>
          rw [hown, List.nil_append] at h
          rcases others with - | ⟨other, - | ⟨next, others⟩⟩
          · exact h
          · obtain rfl : other = cls := Except.ok.inj h
            exact absurd (hothers other List.mem_cons_self) hjson
          · contradiction
        | cons first rest =>
          rw [hown] at h
          rcases rest with - | ⟨second, rest⟩
          · rcases others with - | ⟨other, others⟩
            · exact h
            · contradiction
          · contradiction
    · rw [hother] at h
      obtain rfl : other = cls := Except.ok.inj h
      exact absurd hcls hjson

variable {grammar} in
lemma classifyAll_of_withJson {words : List String} {classes : List Word}
    (h : grammar.withJson.classifyAll words = .ok classes)
    (hjson : ∀ word ∈ classes, ¬ word.cls.IsJson) : grammar.classifyAll words = .ok classes := by
  induction words generalizing classes with
  | nil => exact h
  | cons word rest ih =>
    rw [classifyAll] at h ⊢
    split_ifs at h ⊢
    · exact h
    · obtain ⟨cls, hcls, h⟩ := bind_eq_ok_iff.1 h
      obtain ⟨others, hothers, h⟩ := bind_eq_ok_iff.1 h
      obtain rfl := Except.ok.inj h
      rw [classify_of_withJson hcls (hjson _ List.mem_cons_self),
        ih hothers fun other hother => hjson other (List.mem_cons_of_mem _ hother)]
      rfl

/-- `--json` has no short spelling. -/
lemma option?_short_withJson (c : Char) :
    grammar.withJson.option? (String.ofList ['-', c])
      = grammar.option? (String.ofList ['-', c]) := by
  have hne : String.ofList ['-', c] ≠ "--json" := fun he => by
    have hlist := congrArg String.toList he
    rw [String.toList_ofList] at hlist
    exact absurd (congrArg List.length hlist) (show (2 : Nat) ≠ 6 by decide)
  rw [option?_withJson, if_neg hne, Option.or_none]

/-- So options that are written together are the same in both grammars. -/
lemma cluster_withJson (option : OptionName) (short : Bool) (value : Option (List Char)) :
    grammar.withJson.cluster option short value = grammar.cluster option short value := by
  cases value with
  | none => rfl
  | some value =>
    rw [cluster, cluster]
    induction value generalizing option with
    | nil => rfl
    | cons c rest ih =>
      rw [cluster.go, cluster.go, option?_short_withJson]
      simp only [ih]

/-- **Both grammars take the same words in the same way**, once it is said what each word is. -/
lemma takeWords_withJson (expected : Option Positional) (parsed : Parsed) (words : List Word) :
    grammar.withJson.takeWords expected parsed words
      = grammar.takeWords expected parsed words := by
  have hoption (parsed : Parsed) (option : OptionName) (spelling : String)
      (value : Option (List Char)) (word : Option Word) :
      grammar.withJson.takeOption parsed option spelling value word
        = grammar.takeOption parsed option spelling value word := by
    rw [takeOption, takeOption, cluster_withJson]
  induction expected, parsed, words using Grammar.takeWords.induct grammar with
  | case1 | case7 | case10 => simp only [takeWords]
  | case3 _ _ _ _ _ _ _ _ h => simp only [takeWords, hoption, h]
  | case4 _ _ _ _ _ _ _ _ h ih | case5 _ _ _ _ _ _ _ _ h ih =>
    simpa only [takeWords, hoption, h] using ih
  | case2 _ _ _ _ ih | case6 _ _ _ ih | case8 _ _ _ _ ih | case9 _ _ _ _ ih
  | case11 _ _ _ _ _ ih | case12 _ _ _ _ _ ih => simpa only [takeWords] using ih

end Grammar

/-! ## Words that stand for `--json` -/

namespace Grammar

variable {grammar : Grammar} {parsed read : Parsed}

lemma mem_dropSeparator {word : Word} {words : List Word} (h : word ∈ words)
    (hword : word.cls ≠ .separator) : word ∈ dropSeparator words := by
  unfold dropSeparator
  split
  · rcases List.mem_cons.1 h with rfl | h
    · exact absurd rfl hword
    · exact h
  · exact h

/-- **A word that stands for `--json` is read as such**, wherever it stands. -/
lemma json_mem_switches {expected : Option Positional} {words : List Word}
    (hexpected : expected ≠ some .subcommand)
    (h : grammar.takeWords expected parsed words = .ok read) {word : Word} (hmem : word ∈ words)
    (hjson : word.cls.IsJson) : .json ∈ read.switches := by
  obtain ⟨spelling, value, hcls⟩ := hjson
  -- a word that is something else stands in front
  have hbehind {text : String} {cls : WordClass} {rest : List Word}
      (hmem : word ∈ ⟨text, cls⟩ :: rest) (hne : cls ≠ .option .json spelling value) :
      word ∈ rest := by
    rcases List.mem_cons.1 hmem with rfl | hmem
    · exact absurd hcls hne
    · exact hmem
  -- the word itself
  have htaken {expected : Option Positional} {option : OptionName} {written : String}
      {part : Option (List Char)} {parsed taken : Parsed} {next : Option Word} {used : Bool}
      {rest : List Word}
      (hcls : WordClass.option option written part = .option .json spelling value)
      (hoption : grammar.takeOption parsed option written part next = .ok (taken, used))
      (h : grammar.takeWords expected taken rest = .ok read) : .json ∈ read.switches := by
    obtain ⟨rfl, -⟩ := WordClass.option.inj hcls
    obtain ⟨later, -, rfl⟩ := exists_append_of_takeWords h
    exact List.mem_append_left _ (mem_switches_of_takeOption rfl hoption)
  induction expected, parsed, words using Grammar.takeWords.induct grammar with
  | case1 => exact absurd hmem List.not_mem_nil
  | case2 _ _ _ _ ih =>
    rw [takeWords] at h
    exact ih hexpected h (hbehind hmem (by simp))
  | case3 _ _ _ _ _ _ _ _ hoption =>
    rw [takeWords, hoption] at h
    contradiction
  | case4 _ _ _ _ _ _ _ _ hoption ih =>
    rw [takeWords, hoption] at h
    rcases List.mem_cons.1 hmem with rfl | hmem
    · exact htaken hcls hoption h
    · exact ih hexpected h hmem
  | case5 _ _ _ _ _ _ rest _ hoption ih =>
    rw [takeWords, hoption] at h
    rcases List.mem_cons.1 hmem with rfl | hmem
    · exact htaken hcls hoption h
    · -- the next word is the value
      obtain ⟨text, rest, rfl⟩ := exists_argument_of_takeOption hoption
      exact ih hexpected h (hbehind hmem (by simp))
  | case6 _ _ _ ih =>
    rw [takeWords] at h
    exact ih hexpected h (hbehind hmem (by simp))
  | case7 | case10 => exact absurd rfl hexpected
  | case8 _ _ _ _ ih =>
    rw [takeWords] at h
    exact ih (by simp) h (mem_dropSeparator (hbehind hmem (by simp)) (by simp [hcls]))
  | case9 _ _ _ _ ih =>
    rw [takeWords] at h
    exact ih hexpected h (hbehind hmem (by simp))
  | case11 _ _ _ _ _ ih =>
    rw [takeWords] at h
    exact ih (by simp) h (hbehind (hbehind hmem (by simp)) (by simp))
  | case12 _ _ _ _ hne ih =>
    rw [takeWords] at h
    · exact ih hexpected h (hbehind hmem (by simp))
    · exact hne

/-- **A command line that does without `--json`** is read in the same way where there is no such
option. -/
theorem parse_of_withJson {words : List String}
    (hpositional : grammar.positional ≠ some .subcommand)
    (h : grammar.withJson.parse words = .ok read) (hjson : .json ∉ read.switches) :
    grammar.parse words = .ok read := by
  obtain ⟨classes, hclasses, htaken, hmissing⟩ := parse_eq_ok_iff.1 h
  rw [takeWords_withJson] at htaken
  have hnone : ∀ word ∈ classes, ¬ word.cls.IsJson := fun word hmem hword =>
    hjson (json_mem_switches hpositional htaken hmem hword)
  exact parse_eq_ok_iff.2 ⟨classes, classifyAll_of_withJson hclasses hnone, htaken, hmissing⟩

/-! ## `--json` besides the other words -/

/-- **`--json` may be put in front** of what shows a command. -/
lemma parse_json_cons {words : List String}
    (h : Subcommand.command.grammar.parse words = .ok read) :
    Subcommand.command.grammar.parse ("--json" :: words)
      = .ok (({ switches := [.json] } : Parsed) ++ read) := by
  obtain ⟨classes, hclasses, htaken, hmissing⟩ := parse_eq_ok_iff.1 h
  have hclass : Subcommand.command.grammar.classify "--json"
      = .ok (.option .json "--json" none) := by decide
  have htake (next : Option Word) :
      Subcommand.command.grammar.takeOption {} .json "--json" none next
        = .ok ({ switches := [.json] }, false) := rfl
  refine parse_eq_ok_iff.2 ⟨⟨"--json", .option .json "--json" none⟩ :: classes, ?_, ?_, ?_⟩
  · rw [classifyAll, if_neg (by decide), hclass, hclasses]
    rfl
  · rw [takeWords, htake]
    dsimp only
    rw [← Parsed.append_empty { switches := [.json] }, takeWords_append, htaken]
    rfl
  · intro name hname hnone
    exact hmissing name hname (Option.or_eq_none_iff.1 hnone).1

/-- A separator behind the positional word is dropped, whatever stands behind it. -/
lemma dropSeparator_concat {words : List Word} {last : Word} (hlast : last.cls ≠ .separator) :
    dropSeparator (words ++ [last]) = dropSeparator words ++ [last] := by
  obtain ⟨text, cls⟩ := last
  cases words with
  | nil =>
    cases cls with
    | separator => exact absurd rfl hlast
    | argument | option | unknown => rfl
  | cons word rest =>
    obtain ⟨first, cls⟩ := word
    cases cls <;> rfl

/-- **`--json` behind all other words** adds to what is taken. -/
lemma takeWords_concat_json {expected : Option Positional} {words : List Word}
    (hexpected : expected ≠ some .subcommand)
    (h : grammar.takeWords expected parsed words = .ok read) :
    grammar.takeWords expected parsed (words ++ [⟨"--json", .option .json "--json" none⟩])
      = .ok (read ++ { switches := [.json] }) := by
  -- every case leaves the last word where it is, until there is no other
  induction expected, parsed, words using Grammar.takeWords.induct grammar with
  | case1 expected parsed =>
    obtain rfl : parsed = read := by simpa [takeWords] using h
    have htake : grammar.takeOption parsed .json "--json" none none
        = .ok ({ parsed with switches := parsed.switches ++ [.json] }, false) := rfl
    rw [List.nil_append, takeWords, List.head?_nil, htake]
    dsimp only
    rw [takeWords, Parsed.append_switch]
  | case3 _ _ _ _ _ _ _ _ hoption =>
    rw [takeWords, hoption] at h
    contradiction
  | case4 _ _ _ _ _ _ _ _ hoption ih =>
    rw [takeWords, hoption] at h
    rw [List.cons_append, takeWords, takeOption_next hoption]
    exact ih hexpected h
  | case5 _ _ _ _ _ _ rest _ hoption ih =>
    rw [takeWords, hoption] at h
    obtain ⟨value, rest, rfl⟩ := exists_argument_of_takeOption hoption
    rw [List.head?_cons] at hoption
    rw [List.cons_append, List.cons_append, takeWords, List.head?_cons, hoption]
    exact ih hexpected h
  | case7 | case10 => exact absurd rfl hexpected
  | case8 _ _ _ _ ih =>
    rw [takeWords] at h
    rw [List.cons_append, takeWords, dropSeparator_concat (by simp)]
    exact ih (by simp) h
  | case2 _ _ _ _ ih | case6 _ _ _ ih =>
    rw [takeWords] at h
    rw [List.cons_append, takeWords]
    exact ih hexpected h
  | case9 _ _ _ _ ih | case11 _ _ _ _ _ ih =>
    rw [takeWords] at h
    rw [List.cons_append, List.cons_append, takeWords]
    exact ih (by simp) h
  | case12 _ _ _ rest hne ih =>
    rw [takeWords] at h
    · rw [List.cons_append, takeWords]
      · exact ih hexpected h
      · -- what stands behind the separator is still no argument
        intro word others heq
        cases rest with
        | nil => simp at heq
        | cons next rest => exact hne word rest (by rw [(List.cons.inj heq).1])
    · exact hne

/-- **`--json` may be put behind** as well, unless a separator makes an argument of it. -/
lemma parse_json_concat {words : List String}
    (h : Subcommand.command.grammar.parse words = .ok read) (hnone : "--" ∉ words) :
    Subcommand.command.grammar.parse (words ++ ["--json"])
      = .ok (read ++ { switches := [.json] }) := by
  obtain ⟨classes, hclasses, htaken, hmissing⟩ := parse_eq_ok_iff.1 h
  have hlast : Subcommand.command.grammar.classifyAll ["--json"]
      = .ok [⟨"--json", .option .json "--json" none⟩] := by decide
  refine parse_eq_ok_iff.2 ⟨_, ?_, takeWords_concat_json (by decide) htaken, hmissing⟩
  rw [classifyAll_append hclasses (forall_ne_separator hclasses hnone), hlast]
  rfl

end Grammar

/-! ## Subcommands -/

/-- **The same words ask for the same** in all places.  If they ask for the command of a client as
text, then with `--json` in front of them or behind them they ask for it as JSON, and with the other
subcommand in place of this one they ask for running it. -/
theorem parse_siblings {front words : List String} {top : Parsed} (hfront : IsFront front top)
    {verbose : Bool} {runtime : Datum} {choice : CatalogChoice} {id : String} {attach : Bool}
    (h : Invocation.parse (front ++ "command" :: words)
      = .ok ⟨verbose, runtime, .command choice id attach false⟩) :
    Invocation.parse (front ++ "command" :: "--json" :: words)
        = .ok ⟨verbose, runtime, .command choice id attach true⟩
      ∧ ("--" ∉ words → Invocation.parse (front ++ "command" :: (words ++ ["--json"]))
        = .ok ⟨verbose, runtime, .command choice id attach true⟩)
      ∧ Invocation.parse (front ++ "run" :: words)
        = .ok ⟨verbose, runtime, .run choice id attach⟩ := by
  obtain ⟨others, hothers⟩ := hfront.exists_classes .command h
  obtain ⟨read, hread, hextras, hasked⟩ :=
    (hfront.invocation_eq_ok_iff .command hothers).1 h
  obtain ⟨rfl, rfl, htask⟩ := Invocation.mk.inj hasked
  obtain ⟨rfl, rfl, rfl, hjson⟩ := Task.command.inj htask
  have hclass : topGrammar.classify "--json" = .ok .unknown := by decide +kernel
  have hnone : .json ∉ read.switches := by simpa [Parsed.has] using hjson
  refine ⟨?_, fun hseparator => ?_, ?_⟩
  · have hbehind : topGrammar.classifyAll ("--json" :: words)
        = .ok (⟨"--json", .unknown⟩ :: others) := by
      rw [Grammar.classifyAll, if_neg (by decide), hclass, hothers]
      rfl
    refine (hfront.invocation_eq_ok_iff .command hbehind).2
      ⟨_, Grammar.parse_json_cons hread, hextras, ?_⟩
    rw [Parsed.switch_append]
    rfl
  · have hbehind : topGrammar.classifyAll (words ++ ["--json"])
        = .ok (others ++ [⟨"--json", .unknown⟩]) := by
      rw [Grammar.classifyAll_append hothers (Grammar.forall_ne_separator hothers hseparator),
        Grammar.classifyAll, if_neg (by decide), hclass]
      rfl
    refine (hfront.invocation_eq_ok_iff .command hbehind).2
      ⟨_, Grammar.parse_json_concat hread hseparator, ?_, ?_⟩
    · rw [Parsed.extras_append, hextras]
      rfl
    · rw [Parsed.append_switch]
      simp [Parsed.task, Parsed.has, Parsed.catalogChoice, Parsed.allValues, Parsed.value,
        Parsed.word]
  · refine (hfront.invocation_eq_ok_iff .run hothers).2
      ⟨read, Grammar.parse_of_withJson (by decide) hread hnone, hextras, rfl⟩

end ContainerClients.CommandLine
