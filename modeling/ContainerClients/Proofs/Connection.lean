import ContainerClients.Client
import ContainerClients.Proofs.Stripping
import ContainerClients.Proofs.Success

/-!
# The words that a connection is started with

A launcher puts a command together out of words that come from several places, and the connection
cuts it into words once more: every item is shown, stripped, and left out when nothing is left of
it.  The laws here say what is left in the end, and where the counters stand.

* `Identity.fullName` — the name of a new container, however long its number is.
* `startWords`, `attachWords` — the words of the two commands before they are tidied.
* **`Launcher.words_fresh`**, **`Launcher.words_attach`** — the words of a connection are those,
  tidied.
* `startWords_tidied` — the words of the runtime, `run --name NAME` and the rest keep their places.
-/

namespace ContainerClients.Container

open ContainerClients.Text ContainerClients.Command

/-! ## Names -/

/-- **The full name** of a new container, also where its number has too many digits. -/
def Identity.fullName (identity : Identity) : String :=
  identity.base.shown ++ "-" ++ Number.text identity.suffix

/-- The number of a container fits into a name. -/
def Identity.Fits (identity : Identity) : Prop :=
  (Number.digits identity.suffix.natAbs).length ≤ Number.maxDigits

instance (identity : Identity) : Decidable identity.Fits :=
  inferInstanceAs (Decidable (_ ≤ _))

/-- **A name is made unless its number has too many digits.** -/
lemma Identity.name_eq (identity : Identity) :
    identity.name
      = if identity.Fits then .ok identity.fullName else .error (.invalidValue .longNumber) := by
  rw [Identity.name, Number.text?]
  by_cases h : (Number.digits identity.suffix.natAbs).length > Number.maxDigits
  · rw [if_pos h, if_neg (show ¬ identity.Fits from Nat.not_le.2 h)]
  · rw [if_neg h, if_pos (show identity.Fits from Nat.not_lt.1 h)]
    rfl

lemma Identity.name_eq_ok_iff {identity : Identity} {name : String} :
    identity.name = .ok name ↔ identity.Fits ∧ name = identity.fullName := by
  rw [name_eq]
  by_cases h : identity.Fits
  · rw [if_pos h, Except.ok.injEq, and_iff_right h, eq_comm]
  · rw [if_neg h]
    exact iff_of_false (by simp) fun he => h he.1

/-! ## The two commands -/

/-- **The words that start a container**, before they are tidied. -/
def startWords (runtime : List String) (name : String) (mapping : Mapping) (image : Datum)
    (command : List String) : List String :=
  runtime ++ ["run", "--name", name, "--rm", "-i"] ++ volumeFlags mapping ++ image.shown :: command

/-- **The words that enter a container**, before they are tidied. -/
def attachWords (runtime : List String) (container : Datum) (command : List String) :
    List String :=
  runtime ++ ["exec", "-i"] ++ container.shown :: command

variable {env : Environment} {counters : Counters} {request : LaunchRequest}

/-- The answer made of a built command leaves the counters where they are. -/
lemma Launched.counters_ofCommand (built : Except Failure (List Datum × Event))
    (counters : Counters) : (Launched.ofCommand built counters).counters = counters := by
  cases built <;> rfl

/-- A command that was put together, shown and tidied. -/
lemma words_of_parts (front : List String) (item : Datum) (back : List String) :
    words (.list (front.map .text ++ item :: back.map .text))
      = .ok (tidy (front ++ item.shown :: back)) := by
  rw [words_list]
  simp [Function.comp_def]

/-- **The words of a connection that starts a container.**  The runtime is looked up, the name is
made and the command is cut, in this order; each may fail. -/
theorem Launcher.words_fresh (counter : CounterName) (runtime : Datum) :
    ((Launcher.fresh counter runtime).launch env counters request).answer.bind words
      = (Command.runtime env runtime).bind fun runtime =>
          (Identity.mk request.containerName (counters.next counter)).name.bind fun name =>
            (words request.command).map fun command =>
              tidy (startWords runtime name request.mapping request.image command) := by
  simp only [Launcher.launch, Counters.draw, startCommand]
  cases Command.runtime env runtime with
  | error failure => rfl
  | ok runtime =>
      cases hname : (Identity.mk request.containerName (counters.next counter)).name with
      | error failure => rfl
      | ok name =>
          cases words request.command with
          | error failure => rfl
          | ok command => exact words_of_parts _ _ _

/-- A launcher that starts containers draws once, whatever comes of it. -/
@[simp] lemma Launcher.counters_fresh (counter : CounterName) (runtime : Datum) :
    ((Launcher.fresh counter runtime).launch env counters request).counters
      = (counters.draw counter).2 :=
  Launched.counters_ofCommand _ _

/-- **The words of a connection that enters a container.** -/
theorem Launcher.words_attach (runtime : Datum) :
    ((Launcher.attach runtime).launch env counters request).answer.bind words
      = (Command.runtime env runtime).bind fun runtime =>
          (words request.command).map fun command =>
            tidy (attachWords runtime request.containerName command) := by
  simp only [Launcher.launch, attachCommand]
  cases Command.runtime env runtime with
  | error failure => rfl
  | ok runtime =>
      cases words request.command with
      | error failure => rfl
      | ok command => exact words_of_parts _ _ _

/-- A launcher that enters containers draws nothing. -/
@[simp] lemma Launcher.counters_attach (runtime : Datum) :
    ((Launcher.attach runtime).launch env counters request).counters = counters :=
  Launched.counters_ofCommand _ _

/-! ## Where the words stand -/

/-- The words of a start command are tidy as they are. -/
lemma tidy_startFlags : tidy ["run", "--name"] = ["run", "--name"]
    ∧ tidy ["--rm", "-i"] = ["--rm", "-i"] := ⟨rfl, rfl⟩

/-- **The name stands behind the words of the runtime**, `run` and `--name`, as long as something is
left of it. -/
lemma startWords_tidied {name : String} (hname : stripped name ≠ "") (runtime : List String)
    (mapping : Mapping) (image : Datum) (command : List String) :
    tidy (startWords runtime name mapping image command)
      = tidy runtime ++ ["run", "--name", stripped name, "--rm", "-i"]
        ++ tidy (volumeFlags mapping ++ image.shown :: command) := by
  have hone : tidy [name] = [stripped name] :=
    List.filter_cons_of_pos (by simpa using hname)
  have hflags : tidy ["run", "--name", name, "--rm", "-i"]
      = ["run", "--name", stripped name, "--rm", "-i"] := by
    have hsplit : ["run", "--name", name, "--rm", "-i"]
        = ["run", "--name"] ++ [name] ++ ["--rm", "-i"] := rfl
    rw [hsplit, tidy_append, tidy_append, hone, tidy_startFlags.1, tidy_startFlags.2]
    rfl
  rw [startWords, List.append_assoc, tidy_append, tidy_append, hflags]

end ContainerClients.Container
