import ContainerClients.Proofs.Connection
import ContainerClients.Proofs.ShownCommand

/-!
# Commands that are cut twice

The words of a command are cut when a client is made, and again when it is connected.  The second
time they are a list, and a list is cut by another rule than a text: its items are stripped, and the
blank ones are left out.  A quotation can put blanks at the ends of a word, so a text and the list
of its words need not have the same words.  A list and the list of its words always have.

* `IsTrimmed` — neither end of a word is blank.
* `words_words_iff` — the words of a command are cut into themselves exactly when they are trimmed.
* `words_words_of_not_text` — those of a command that is no text always are.
* `Client.connect_of_answer` — a connection hands on what a launcher answers, tidied.
* **`words_again`** — where the words of a client and those of its connection are the same.
-/

namespace ContainerClients

open ContainerClients.Text ContainerClients.Container ContainerClients.Command

namespace Command

/-- Neither end of a word is blank. -/
def IsTrimmed (word : String) : Prop :=
  startsBlank word.toList = false ∧ endsBlank word.toList = false

instance (word : String) : Decidable (IsTrimmed word) := inferInstanceAs (Decidable (_ ∧ _))

/-- A trimmed word is blank only when there is nothing in it. -/
lemma IsTrimmed.ne_empty_iff {word : String} (h : IsTrimmed word) :
    word ≠ "" ↔ isBlankText word.toList = false := by
  rw [← Bool.not_eq_true, ← strip_eq_nil_iff, strip_eq_self_iff.2 h, String.toList_eq_nil_iff]

variable {argv : List String}

lemma words_ofTexts_eq_self_iff :
    words (.ofTexts argv) = .ok argv ↔ ∀ word ∈ argv, word ≠ "" ∧ IsTrimmed word := by
  rw [words_ofTexts, Except.ok.injEq, tidy_eq_self_iff]
  exact forall₂_congr fun word _ => isTidyWord_iff

/-- **The words of a command are cut into themselves exactly when they are trimmed.** -/
theorem words_words_iff {command : Datum} (h : words command = .ok argv) :
    words (.ofTexts argv) = .ok argv ↔ ∀ word ∈ argv, IsTrimmed word := by
  rw [words_ofTexts_eq_self_iff]
  refine forall₂_congr fun word hword => ?_
  exact and_iff_right (forall_ne_empty_of_words h word hword)

/-- Those of a command that is no text always are. -/
lemma words_words_of_not_text {command : Datum} (hcommand : ∀ s, command ≠ .text s)
    (h : words command = .ok argv) : words (.ofTexts argv) = .ok argv := by
  rw [words_ofTexts, tidy_eq_self (isTidyWord_of_words hcommand h)]

end Command

/-! ## Connections -/

namespace Client

variable {client : Client} {env : Environment} {counters : Counters}

/-- **A connection hands on the words that are answered**, tidied. -/
lemma connect_of_answer {launched : Launched} {argv : List String}
    (hlaunched : client.connection.launch? env counters = some launched)
    (hanswer : launched.answer = .ok (.ofTexts argv)) :
    (client.connect env counters).argv = .ok (tidy argv) := by
  rw [connect, Connection.connect_of_launch? hlaunched, Connected.ofLaunched, hanswer]
  exact words_ofTexts argv

/-- A client on the host keeps the words of its command, and they are what it is started with. -/
lemma command_of_direct {id : ClientId} {command extensions priority : Datum}
    (h : direct id command extensions priority = .ok client) :
    words command = .ok client.command
      ∧ (client.connect env counters).argv = words (.ofTexts client.command) := by
  obtain ⟨argv, hargv, h⟩ := bind_eq_ok_iff.1 h
  obtain ⟨items, -, h⟩ := bind_eq_ok_iff.1 h
  obtain ⟨lowered, -, h⟩ := bind_eq_ok_iff.1 h
  obtain rfl := Except.ok.inj h
  exact ⟨hargv, rfl⟩

end Client

/-! ## Cut once and cut twice -/

/-- **Where cutting a command twice is cutting it once.**

* The words of a list are cut into themselves.
* Those of a text are exactly when no word starts or ends with a blank.
* So a client on the host is started with the words that it shows, unless its command is a text and
  one of them starts or ends with a blank.
* A connection hands on the words that a launcher answers, or any other command that is asked for,
  unless one of the words is blank, or starts or ends with a blank. -/
theorem words_again :
    (∀ items : List Datum, ∃ argv, words (.list items) = .ok argv
      ∧ words (.ofTexts argv) = .ok argv)
    ∧ (∀ (s : String) (argv : List String), words (.text s) = .ok argv →
      (words (.ofTexts argv) = .ok argv ↔ ∀ word ∈ argv, IsTrimmed word))
    ∧ (∀ (id : ClientId) (command extensions priority : Datum) (client : Client),
      Client.direct id command extensions priority = .ok client →
      ∀ (env : Environment) (counters : Counters),
        (∃ argv, (client.connect env counters).argv = .ok argv)
        ∧ ((client.connect env counters).argv = .ok client.command
          ↔ ∀ word ∈ client.command, IsTrimmed word)
        ∧ ((∀ s, command ≠ .text s) →
          (client.connect env counters).argv = .ok client.command))
    ∧ ∀ (client : Client) (env : Environment) (counters : Counters) (launched : Launched)
      (argv : List String), client.connection.launch? env counters = some launched →
      launched.answer = .ok (.ofTexts argv) →
      (∃ handed, (client.connect env counters).argv = .ok handed)
      ∧ ((client.connect env counters).argv = .ok argv
        ↔ ∀ word ∈ argv, isBlankText word.toList = false ∧ IsTrimmed word) := by
  refine ⟨fun items => ?_, fun s argv h => words_words_iff h, ?_, ?_⟩
  · refine ⟨_, words_list items, ?_⟩
    rw [words_ofTexts, tidy_tidy]
  · intro id command extensions priority client hclient env counters
    obtain ⟨hwords, hconnected⟩ := Client.command_of_direct hclient
    rw [hconnected]
    exact ⟨⟨_, words_ofTexts _⟩, words_words_iff hwords,
      fun hcommand => words_words_of_not_text hcommand hwords⟩
  · intro client env counters launched argv hlaunched hanswer
    rw [Client.connect_of_answer hlaunched hanswer, ← words_ofTexts, words_ofTexts_eq_self_iff]
    refine ⟨⟨_, words_ofTexts _⟩, forall₂_congr fun word _ => ?_⟩
    exact and_congr_left fun htrimmed => htrimmed.ne_empty_iff

/-- A client on the host whose command has a blank in front of a word, between quotes. -/
def quotedBlank : Client := .onHost (.text "gopls") [".go"] ["gopls", " a", "b"] (.whole (-1))

/-- The same client in a container, with a launcher that answers blank words. -/
def blankAnswer : Client :=
  quotedBlank.inContainer {
    id := .text "go-box"
    command := ["gopls"]
    priority := .whole 10
    mapping := [⟨"/h", "/c"⟩]
    containerName := .text "box"
    image := .text "img"
    launcher := .own fun _ _ => .ok (.ofTexts ["gopls", " ", "b\n"]) }

/-- Neither is started with the words that it shows or that its launcher answers. -/
theorem words_again_quotedBlank :
    Command.words (.text "gopls ' a' b") = .ok ["gopls", " a", "b"]
    ∧ Command.words (.ofTexts ["gopls", " a", "b"]) ≠ .ok ["gopls", " a", "b"]
    ∧ Client.direct (.text "gopls") (.text "gopls ' a' b") (.ofTexts [".go"]) (.whole (-1))
        = .ok quotedBlank
    ∧ (quotedBlank.connect .empty {}).argv ≠ .ok quotedBlank.command
    ∧ (∃ launched, blankAnswer.connection.launch? .empty {} = some launched
      ∧ launched.answer = .ok (.ofTexts ["gopls", " ", "b\n"]))
    ∧ (blankAnswer.connect .empty {}).argv ≠ .ok ["gopls", " ", "b\n"] := by
  have hwords : Command.words (.text "gopls ' a' b") = .ok ["gopls", " a", "b"] := rfl
  have hclient : Client.direct (.text "gopls") (.text "gopls ' a' b") (.ofTexts [".go"])
      (.whole (-1)) = .ok quotedBlank := rfl
  obtain ⟨launched, hlaunched, hanswer⟩ :
      ∃ launched, blankAnswer.connection.launch? .empty {} = some launched
        ∧ launched.answer = .ok (.ofTexts ["gopls", " ", "b\n"]) := ⟨_, rfl, rfl⟩
  have huntrimmed : ¬ ∀ word ∈ ["gopls", " a", "b"], Command.IsTrimmed word := by decide
  obtain ⟨-, htext, hdirect, hlauncher⟩ := words_again
  refine ⟨hwords, fun h => huntrimmed ((htext _ _ hwords).1 h), hclient, fun h => ?_,
    ⟨launched, hlaunched, hanswer⟩, fun h => ?_⟩
  · exact huntrimmed ((hdirect _ _ _ _ _ hclient .empty {}).2.1.1 h)
  · exact absurd ((hlauncher _ _ _ _ _ hlaunched hanswer).2.1 h) (by decide)

end ContainerClients
