import ContainerClients.Proofs.SplitWords
import ContainerClients.Proofs.Stripping
import ContainerClients.Proofs.Success

/-!
# A shown command is read back

A command is shown as one text, so that whoever sees it can hand it to a shell.  What is shown has
to stand for the same words, whatever is in them: blanks and line ends, quotes, backslashes, and
characters beyond ASCII.

* `readWords_showWords` — what is written is read back, without the empty words.
* `forall_ne_empty_of_words` — the words of a command are not empty.
* **`words_format`** — a command as one text has the words of the command.
-/

namespace ContainerClients.Command

/-- **Written words are read back**, without the empty ones. -/
theorem readWords_showWords (words : List (List Char)) :
    readWords (showWords words) = .ok (words.filter (!·.isEmpty)) := by
  rw [readWords_eq, ← List.append_nil (showWords words),
    splitWords_showWords words fun c hc => absurd hc List.not_mem_nil]
  rfl

/-- **The words that are read are not empty.** -/
lemma forall_ne_nil_of_readWords {s : List Char} {words : List (List Char)}
    (h : readWords s = .ok words) : ∀ each ∈ words, each ≠ [] := by
  rw [readWords_eq] at h
  obtain ⟨all, -, rfl⟩ := map_eq_ok_iff.1 h
  intro each hmem
  simpa using List.of_mem_filter hmem

/-- **The words of a command are not empty**, however it is given. -/
lemma forall_ne_empty_of_words {command : Datum} {argv : List String}
    (h : words command = .ok argv) : ∀ word ∈ argv, word ≠ "" := by
  have hitems : ∀ items, ∀ word ∈ ofItems items, word ≠ "" := fun items word hword =>
    (isTidyWord_of_mem_tidy hword).ne_empty
  cases command with
  | null =>
      obtain rfl := Except.ok.inj h
      exact fun word hword => absurd hword List.not_mem_nil
  | text s =>
      rw [words, ofText] at h
      split at h
      · rename_i read hread
        obtain rfl := Except.ok.inj h
        intro word hword
        obtain ⟨characters, hmem, rfl⟩ := List.mem_map.1 hword
        intro hempty
        exact forall_ne_nil_of_readWords hread characters hmem (String.ofList_eq_empty_iff.1 hempty)
      · contradiction
  | list items =>
      obtain rfl := Except.ok.inj h
      exact hitems items
  | record fields =>
      obtain rfl := Except.ok.inj h
      exact hitems _
  | flag b => contradiction
  | whole i => contradiction
  | real x => contradiction

/-- **Words that are shown are read back**, unless there is an empty one. -/
lemma words_shown {argv : List String} (h : ∀ word ∈ argv, word ≠ "") :
    words (.text (shown argv)) = .ok argv := by
  have hkept : (argv.map String.toList).filter (!·.isEmpty) = argv.map String.toList := by
    rw [List.filter_eq_self]
    intro characters hmem
    obtain ⟨word, hword, rfl⟩ := List.mem_map.1 hmem
    simpa using h word hword
  have hread : readWords (shown argv).toList = .ok (argv.map String.toList) := by
    rw [shown, String.toList_ofList, readWords_showWords, hkept]
  simp [words, ofText, hread, Function.comp_def]

/-- **A command as one text has the words of the command**, whatever characters are in them.  There
is such a text exactly when the command has words. -/
theorem words_format (command : Datum) :
    ((format command).bind fun line => words (.text line)) = words command := by
  rw [format]
  cases hwords : words command with
  | error failure => rfl
  | ok argv => exact words_shown (forall_ne_empty_of_words hwords)

/-- A word with a single quote in it leaves the quotation and comes back. -/
example : shown ["echo", "it's", "a b"] = "echo 'it'\"'\"'s' 'a b'" := by decide +kernel

end ContainerClients.Command
