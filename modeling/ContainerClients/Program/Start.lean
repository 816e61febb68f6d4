import ContainerClients.Program.Shell.Run

/-!
# Starting programs

A program is started by its words and an input, in a folder of its own with the variables that are
passed to it.

* `startFolder`, `searchPath` — where programs are started, and where they are looked for.
* `Outcome` — what is left of a program that has ended.
* `execute` — starting a program, or a `StartFault` where there is none.
-/

namespace ContainerClients.Program

/-- The folder that programs are started in. -/
def startFolder : Path := ["root".toList]

/-- Where programs are looked for. -/
def searchPath : Octets := "/usr/local/sbin:/usr/local/bin:/usr/sbin:/usr/bin:/sbin:/bin".toList

/-- The variables that every program gets. -/
def startVariables : List (Octets × Octets) :=
  [("HOME".toList, "/root".toList), ("PATH".toList, searchPath), ("PWD".toList, startFolder.text)]

/-- How many commands a program may carry out. -/
def startBudget : Nat := 5000000

/-- How deep scripts may be nested. -/
def startDepth : Nat := 20000

/-- What is left of a program that has ended. -/
structure Outcome where
  /-- what it wrote to its output -/
  output : Octets
  /-- what it wrote to the errors -/
  errors : Octets
  /-- its exit status -/
  exit : Nat

/-- A shell around a program, with its input. -/
def shellAround (name input : Octets) (passed : List (Octets × Octets)) : Shell where
  name := name
  args := []
  settings := Act.startSettings (startVariables ++ passed) startFolder
  hidden := []
  functions := []
  aliases := []
  options := .none
  status := 0
  substituted := none
  line := 0
  command := none
  loops := 0
  tested := false
  leaving := none
  descriptors := [(0, 0), (1, 1), (2, 2)]
  traps := []
  jobs := []
  lastJob := none
  folder := startFolder
  documents := []
  nextDocument := 0
  optionPlace := (1, none)
  mask := "0022".toList
  budget := startBudget
  machine := ⟨#[.source input, .sink [], .sink []], .initial programNames⟩

/-- Why a program cannot be started. -/
inductive StartFault where
  /-- there is no such program -/
  | missing
  /-- what is there cannot be run -/
  | notRunnable
  /-- a part of its path is no folder -/
  | notFolder
  /-- a part of its path is longer than any name can be -/
  | nameTooLong
deriving DecidableEq, Repr

/-- The length of the longest name. -/
def longestName : Nat := 255

/-- Why a program cannot be started: what has its name may be there all the same. -/
def startFault (files : Files) (name : Octets) : StartFault :=
  if (Text.pieces '/' name).any (longestName < ·.length) then .nameTooLong
  else if name.contains '/' then
    let path := Path.resolve startFolder name
    match files.node? path with
    | some .folder => .notRunnable
    | some _ => if name.getLast? == some '/' then .notFolder else .notRunnable
    | none => if files.absence path = .notFolder then .notFolder else .missing
  else
    let paths := (Text.pieces ':' searchPath).map fun folder =>
      Path.resolve startFolder (folder ++ '/' :: name)
    if paths.any fun path => (files.node? path).isSome then .notRunnable else .missing

/-- **Starting a program.** -/
def execute (argv : List Octets) (input : Octets) (passed : List (Octets × Octets)) :
    Except StartFault Outcome :=
  let name := argv.headD []
  let shell := shellAround name input passed
  let files := shell.machine.files
  let (found, shell) := Act.programPath? name shell
  match found with
  | .ok (some path) =>
    if name.getLast? == some '/' then .error .notFolder
    else
    let act := Act.invoke (Act.run startDepth) startDepth name path argv.tail
    let (_, shell) := act shell
    .ok ⟨shell.machine.written 1, shell.machine.written 2, shell.status % 256⟩
  | _ => .error (startFault files name)

end ContainerClients.Program
