import ContainerClients.Command
import ContainerClients.Datum.Json

/-!
# Checking the container runtime

The runtime is ready when its program is found and answers when asked for its version.  What the
program writes are bytes, which are read as text; there may be none that they say, and there are
words that no program can be started with.  Then the question comes to no answer at all.

* `Probe` — what looking for programs and asking for the version comes to.
* `Probe.answer` — the answer of a program, or the failure that asking it meets.
* `RuntimeStatus.check` — the state of the runtime (`_runtime_status`).
* `RuntimeStatus.json`, `RuntimeStatus.lines` — how it is shown (`_print_doctor`).
-/

namespace ContainerClients.CommandLine

open ContainerClients.Text

/-- What a program does that is asked for its version. -/
inductive VersionRun where
  /-- it ends with a status, and has written some bytes -/
  | ended (code : Int) (stdout stderr : List UInt8)
  /-- it cannot be started, for a reason -/
  | refused (reason : String)
  /-- it does not end in time -/
  | timedOut

/-- **What looking for the runtime comes to.** -/
structure Probe where
  /-- where programs are found -/
  which : List (String × String)
  /-- what the program does that is asked for its version -/
  run : VersionRun
  /-- the text that bytes say, or why they say none -/
  decode : List UInt8 → Except String String

/-- No program is found. -/
def Probe.nothing : Probe := ⟨[], .timedOut, fun _ => .ok ""⟩

/-- **What asking a program for its version comes to.** -/
inductive VersionAnswer where
  /-- it ends with a status and what it wrote -/
  | finished (code : Int) (stdout stderr : String)
  /-- it cannot be started, for a reason -/
  | refused (reason : String)
  /-- it does not end in time -/
  | timedOut

namespace Probe

/-- Where a program is found (`which`). -/
def find? (probe : Probe) (program : String) : Option String :=
  (probe.which.find? (·.1 == program)).map (·.2)

/-- What bytes say, which has to be something. -/
def read (probe : Probe) (bytes : List UInt8) : Except Failure String :=
  match probe.decode bytes with
  | .ok text => .ok text
  | .error reason => .error (.invalidValue (.undecodable reason))

/-- **The answer of the program that is started with some words.**  There is none if the words
cannot be passed on, or if what the program writes is no text. -/
def answer (probe : Probe) (words : List String) : Except Failure VersionAnswer :=
  if !Command.canBePassed words then .error (.invalidValue .nulInArgument)
  else match probe.run with
    | .ended code stdout stderr => do
      let stdout ← probe.read stdout
      let stderr ← probe.read stderr
      return .finished code stdout stderr
    | .refused reason => .ok (.refused reason)
    | .timedOut => .ok .timedOut

end Probe

/-- **The state of the runtime.** -/
structure RuntimeStatus where
  /-- the command of the runtime -/
  command : List String
  /-- where its program is -/
  executable : Option String
  /-- whether it can be used -/
  available : Bool
  /-- its version -/
  version : Option String := none
  /-- why it cannot be used -/
  reason : Option String := none

/-- The longest version that is shown. -/
def versionLength : Nat := 200

/-- The seconds after which a program is given up. -/
def patience : Nat := 5

/-- The words that ask a runtime for its version. -/
def versionCommand (runtime : List String) : List String := runtime ++ ["--version"]

/-- What a program wrote: its standard output unless that is empty. -/
def chosenOutput (stdout stderr : String) : String := if stdout.isEmpty then stderr else stdout

/-- **The version in what a program wrote**: the first line of the stripped text, cut short. -/
def versionOf (stdout stderr : String) : Option String :=
  let output := strip (chosenOutput stdout stderr).toList
  if output.isEmpty then none else some (String.ofList ((firstLine output).take versionLength))

namespace RuntimeStatus

/-- The state of a runtime whose program is not found. -/
def missing (runtime : List String) (program : String) : RuntimeStatus where
  command := runtime
  executable := none
  available := false
  reason := some ("'" ++ program ++ "' was not found on PATH")

/-- The state of a runtime whose program is found. -/
def ofAnswer (runtime : List String) (executable : String) : VersionAnswer → RuntimeStatus
  | .finished code stdout stderr =>
    { command := runtime
      executable := some executable
      available := code == 0
      version := versionOf stdout stderr
      reason := if code == 0 then none else some ("exit code " ++ Number.text code) }
  | .refused reason =>
    { command := runtime, executable := some executable, available := false, reason := some reason }
  | .timedOut =>
    { command := runtime
      executable := some executable
      available := false
      reason := some ("Command '" ++ (Datum.ofTexts (versionCommand runtime)).literal
        ++ "' timed out after " ++ Number.text (patience : Int) ++ " seconds") }

/-- **The state of a runtime**, unless asking its program comes to no answer; and the commands that
were tried to find out. -/
def check (probe : Probe) (runtime : List String) :
    Except Failure RuntimeStatus × List (List String) :=
  match probe.find? (runtime.headD "") with
  | none => (.ok (missing runtime (runtime.headD "")), [])
  | some executable =>
    ((probe.answer (versionCommand runtime)).map (ofAnswer runtime executable),
      [versionCommand runtime])

/-- A text that may be missing. -/
def optionalText : Option String → Datum
  | some s => .text s
  | none => .null

/-- **The state as JSON.** -/
def json (status : RuntimeStatus) : String :=
  (Datum.record [("ready", .flag status.available),
    ("runtime", .record [("command", .ofTexts status.command),
      ("executable", optionalText status.executable), ("available", .flag status.available),
      ("version", optionalText status.version),
      ("reason", optionalText status.reason)])]).indentedJson

/-- A line for a text that is there and not empty. -/
def detail (label : String) : Option String → List String
  | some s => if s.isEmpty then [] else ["      " ++ label ++ ": " ++ s]
  | none => []

/-- **The state in lines.** -/
def lines (status : RuntimeStatus) : List String :=
  ["lsp-docker doctor",
   "[" ++ (if status.available then "OK" else "MISSING") ++ "] runtime: "
      ++ Command.display status.command]
    ++ detail "version" status.version ++ detail "note" status.reason

end RuntimeStatus

end ContainerClients.CommandLine
