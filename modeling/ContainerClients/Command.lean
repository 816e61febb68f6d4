import ContainerClients.Environment
import ContainerClients.Failure

/-!
# Commands

A command is given as one text or as a list, and becomes a list of words: the program and its
arguments.

* `Command.words` — the words of a command (`parse_command`).  A text is cut as a shell does it; of
  a list, each item is shown and stripped, and the blank ones are left out.
* `Command.format` — the words as one text that is cut into the same words (`format_command`).
* `Command.display` — the same for words that are known already.
* `Command.canBePassed` — whether a program can be started with some words.
* `Command.runtime` — the command of the container runtime: the one given, else the one in the
  environment, else the default (`resolve_runtime`).
-/

namespace ContainerClients.Command

/-- Words stripped, without the blank ones. -/
def tidy (words : List String) : List String := (words.map Text.stripped).filter (!·.isEmpty)

/-- The words of a command given as a list. -/
def ofItems (items : List Datum) : List String := tidy (items.map Datum.shown)

/-- The words of a command given as a text. -/
def ofText (s : String) : Except Failure (List String) :=
  match readWords s.toList with
  | .ok words => .ok (words.map String.ofList)
  | .error fault => .error (.invalidValue (.words fault))

/-- **The words of a command** (`parse_command`). -/
def words : Datum → Except Failure (List String)
  | .null => .ok []
  | .text s => ofText s
  | d =>
    match d.items? with
    | some items => .ok (ofItems items)
    | none => .error .mistyped

/-- The text that shows a list of words. -/
def shown (argv : List String) : String := String.ofList (showWords (argv.map String.toList))

/-- **A command as one text** (`format_command`). -/
def format (command : Datum) : Except Failure String := (words command).map shown

/-- **Words as one text.**  They are taken as a command given as a list. -/
def display (argv : List String) : String := shown (tidy argv)

/-- **Words can be passed on to a program** unless one of them holds a character NUL. -/
def canBePassed (argv : List String) : Bool :=
  !argv.any fun word => word.toList.contains (Char.ofNat 0)

/-- The default runtime. -/
def defaultRuntime : List String := ["docker"]

/-- **The command of the container runtime** (`resolve_runtime`). -/
def runtime (env : Environment) (explicit : Datum) : Except Failure (List String) := do
  let given ← words explicit
  if !given.isEmpty then return given
  let fromEnvironment ← words (.text (env.text .runtime))
  if !fromEnvironment.isEmpty then return fromEnvironment
  return defaultRuntime

theorem words_ofTexts (texts : List String) : words (.ofTexts texts) = .ok (tidy texts) := by
  simp [words, Datum.ofTexts, Datum.items?, ofItems, tidy, Function.comp_def]

end ContainerClients.Command
