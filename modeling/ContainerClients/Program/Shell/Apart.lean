import ContainerClients.Program.Shell.Commands

/-!
# Scripts inside scripts

What a part of a script needs to carry out other scripts is handed to it as `run`.

* `Act.withTested`, `Act.checkFailure` — failures that end a script, and those that do not.
* `Act.runText` — a text, command line by command line.
* `Act.apart`, `Act.capture`, `Act.pipeline`, `Act.beside` — scripts whose settings are not kept.
* `Act.call` — a function.

A part of a pipe may carry out a bounded number of commands; one that reaches its bound is taken to
be stopped by a reader that wants no more.
-/

namespace ContainerClients.Program

/-- How many commands a part of a pipe may carry out. -/
def pipeBudget : Nat := 100000

namespace Act

/-! ## Context -/

/-- Carries out an act of which failures are looked at, or not. -/
def withTested (tested : Bool) (act : Act PUnit) : Act PUnit := do
  let before := (← get).tested
  modify fun shell => { shell with tested }
  let stop ← outcome act
  modify fun shell => { shell with tested := before }
  resume stop

/-- A failure that nobody looks at ends the script, if the options say so. -/
def checkFailure : Act PUnit := do
  let shell ← get
  if shell.status ≠ 0 && shell.options.stopOnFailure && !shell.tested then throw .script

/-- One more command is carried out. -/
def spend : Act PUnit := do
  let shell ← get
  if shell.budget = 0 then throw .exhausted
  set { shell with budget := shell.budget - 1 }

/-! ## Texts -/

/-- Carries out the lines of a source; says whether there was any command.  The number bounds
how many lines there are. -/
def runLines (run : Script → Act PUnit) : Nat → Source → Act Bool
  | 0, _ => return false
  | fuel + 1, source => do
    let shell ← get
    let source := { source with
      aliases := shell.aliases, nextDocument := shell.nextDocument, documents := [] }
    match source.readLine? with
    | .error fault =>
      modify fun shell => { shell with line := fault.line }
      fail ("Syntax error: ".toList ++ fault.message.toList)
    | .ok (none, _) => return false
    | .ok (some .nothing, rest) => runLines run fuel rest
    | .ok (some script, rest) =>
      modify fun shell => { shell with
        documents := rest.documents ++ shell.documents, nextDocument := rest.nextDocument }
      if !(← get).options.readOnly then run script
      discard (runLines run fuel rest)
      return true

/-- **Carries out a text.** -/
def runText (run : Script → Act PUnit) (text : Octets) : Act PUnit := do
  let ran ← runLines run (text.length + 2) (Source.ofText text 0 [])
  if !ran then setStatus 0

/-- What is left to do at the end of a script. -/
def runLast (run : Script → Act PUnit) : Act PUnit := do
  let shell ← get
  match shell.traps.lookup "EXIT".toList with
  | none => return
  | some action =>
    set { shell with
      traps := shell.traps.filter (·.1 != "EXIT".toList), leaving := some shell.status, loops := 0 }
    match ← outcome (runText run action) with
    | none => setStatus shell.status
    | some _ => return

/-- **Carries out an act apart**: of what it does, only what is shared is kept, and its status, of
which a byte is left. -/
def apart (run : Script → Act PUnit) (act : Act PUnit) : Act PUnit := do
  let outer ← get
  set { outer with traps := outer.traps.filter (·.2.isEmpty), leaving := none }
  let stop ← outcome act
  if stop != some .exhausted then runLast run
  let inner ← get
  set { outer with
    machine := inner.machine, budget := inner.budget, status := inner.status % 256
    nextDocument := inner.nextDocument }
  if stop == some .exhausted then throw .exhausted

/-- **The output of a script**, without the line ends behind it. -/
def capture (run : Script → Act PUnit) (script : Script) : Act Octets := do
  let before := (← get).status
  let text ← withOutput (withTested false (apart run (run script)))
  modify fun shell => { shell with substituted := some shell.status, status := before }
  return Text.dropEndWhile (· == '\n') (text.filter (· != '\x00'))

/-- A part of a pipe, whose bounds are narrower. -/
def partOfPipe (act : Act PUnit) : Act PUnit := do
  let before := (← get).budget
  let bound := min before pipeBudget
  modify fun shell => { shell with budget := bound }
  let stop ← outcome act
  modify fun shell => { shell with budget := before - (bound - shell.budget) }
  if stop != some .exhausted then resume stop

/-- **Carries out scripts in a pipe.** -/
def pipeline (run : Script → Act PUnit) : Option Nat → List Script → Act PUnit
  | _, [] => return
  | input, [last] => keepingDescriptors do
    if let some stream := input then lead 0 stream
    apart run (run last)
  | input, first :: others => do
    let text ← withOutput do
      if let some stream := input then lead 0 stream
      partOfPipe (apart run (run first))
    let stream ← addStream (.source text)
    pipeline run (some stream) others

/-- Carries out a script beside what follows, with an empty input. -/
def beside (run : Script → Act PUnit) (script : Script) : Act PUnit := do
  let stream ← addStream .nowhere
  keepingDescriptors do
    lead 0 stream
    withTested false (apart run (run script))
  modify fun shell =>
    let number := shellNumber + 1 + shell.jobs.length
    { shell with
      jobs := (number, shell.status) :: shell.jobs, lastJob := some number, status := 0 }

/-! ## Functions -/

/-- **Calls a function.** -/
def call (run : Script → Act PUnit) (body : Script) (args : List Octets) : Act PUnit := do
  let outer ← get
  set { outer with args, loops := 0, hidden := [] :: outer.hidden }
  let stop ← outcome (run body)
  for (name, setting) in ((← get).hidden.headD []) do putSetting name setting
  modify fun shell => { shell with
    args := outer.args, loops := outer.loops, hidden := outer.hidden
    optionPlace := outer.optionPlace }
  match stop with
  | some .function => return
  | stop => resume stop

end Act

end ContainerClients.Program
