import ContainerClients.Program.Files

/-!
# Tools

A tool is a program that reads its input to the end, or stops before it, writes to its output and
to the errors, and ends.  All that it can see is a `Call`, and all that it does is an `Effect`.

* `Call`, `Effect`, `Tool`.
* `Call.consuming`, `Call.ignoring`, `Call.refusing` — the common effects.
* `Call.throughFiles`, `Call.acrossFiles` — tools that read files, or their input where none is
  named.
* `mapLines` — work on each line.
-/

namespace ContainerClients.Program

/-- **What a tool can see.** -/
structure Call where
  /-- the name that it is called by -/
  name : Octets
  /-- its arguments -/
  args : List Octets
  /-- what it can read from its input -/
  input : Octets
  /-- its input is a file, in which it can go back -/
  seekable : Bool
  /-- the tree of files -/
  files : Files
  /-- the folder that it is called in -/
  folder : Path
  /-- the variables that are passed to it -/
  settings : List (Octets × Octets)

/-- Where a tool writes. -/
inductive Channel where
  /-- the standard output -/
  | output
  /-- the errors -/
  | errors
deriving DecidableEq, Repr

/-- **What a tool does.** -/
structure Effect where
  /-- what it writes, in order -/
  writes : List (Channel × Octets)
  /-- what it leaves unread -/
  rest : Octets
  /-- its exit status, below 256 -/
  exit : Nat
  /-- the tree of files behind it -/
  files : Files

/-- **A tool.** -/
abbrev Tool := Call → Effect

namespace Call

/-- A tool that reads all its input. -/
def consuming (call : Call) (output : Octets) (exit : Nat) : Effect :=
  ⟨[(.output, output)], [], exit, call.files⟩

/-- A tool that reads nothing. -/
def ignoring (call : Call) (output : Octets) (exit : Nat) : Effect :=
  ⟨[(.output, output)], call.input, exit, call.files⟩

/-- A complaint in the tool's name. -/
def complaint (call : Call) (message : String) : Octets :=
  call.name ++ ": ".toList ++ Octets.ofText message ++ ['\n']

/-- A tool that does nothing but complain. -/
def refusing (call : Call) (message : String) (exit : Nat) : Effect :=
  ⟨[(.errors, call.complaint message)], call.input, exit, call.files⟩

/-- The text of a file, or of the input where it is named `-`. -/
def textOf (call : Call) (name : Octets) : Except FileFault Octets :=
  if name == ['-'] || name == "/dev/stdin".toList then .ok call.input
  else call.files.read (Path.resolve call.folder name)

/-- A complaint about a file. -/
def fileComplaint (call : Call) (name : Octets) (fault : FileFault) : Octets :=
  call.name ++ ": ".toList ++ name ++ ": ".toList ++ fault.message.toList ++ ['\n']

/-- The names of files, or that of the input if there are none. -/
def namesOrInput (names : List Octets) : List Octets := if names.isEmpty then [['-']] else names

/-- What is left of the input behind a tool that needs no more than its front.  From a stream whole
blocks are taken. -/
def restBehindFront (call : Call) (block count : Nat) : Octets :=
  if call.seekable then call.input.drop count
  else call.input.drop ((count + block - 1) / max block 1 * block)

/-- What is left of the input behind a tool that reads files. -/
def restBehind (call : Call) (names : List Octets) : Octets :=
  if (namesOrInput names).contains ['-'] then [] else call.input

/-- The texts of files by their names.  What is read once of the input is not there for another
time. -/
def texts (call : Call) (names : List Octets) : List (Octets × Except FileFault Octets) :=
  ((namesOrInput names).foldl (fun (found, used) name =>
    if name == ['-'] then
      ((name, .ok (if used then [] else call.input)) :: found, true)
    else ((name, call.textOf name) :: found, used)) (([] : List _), false)).1.reverse

/-- **A tool that goes through files.**  Those that cannot be read are complained about. -/
def throughFiles (call : Call) (names : List Octets) (work : Octets → Octets → Octets) : Effect :=
  let parts := (call.texts names).map fun (name, text) =>
    match text with
    | .ok text => ((Channel.output, work name text), true)
    | .error fault => ((.errors, call.fileComplaint name fault), false)
  ⟨parts.map (·.1), call.restBehind names, if parts.all (·.2) then 0 else 1, call.files⟩

/-- The joined texts of files, and complaints about those that cannot be read. -/
def joinedFiles (call : Call) (names : List Octets) : Octets × Octets :=
  (call.texts names).foldl (fun (texts, complaints) (name, text) =>
    match text with
    | .ok text => (texts ++ text, complaints)
    | .error fault => (texts, complaints ++ call.fileComplaint name fault)) ([], [])

/-- **A tool that takes files together.** -/
def acrossFiles (call : Call) (names : List Octets) (work : Octets → Octets) : Effect :=
  let (text, complaints) := call.joinedFiles names
  ⟨[(.errors, complaints), (.output, work text)], call.restBehind names,
    if complaints.isEmpty then 0 else 1, call.files⟩

end Call

/-- A text of lines, each worked on by itself.  A last line that is not ended stays so. -/
def mapLines (work : Octets → Octets) (text : Octets) : Octets :=
  let lines := Text.pieces '\n' text
  let last := lines.getLast?.getD []
  (lines.dropLast.flatMap fun line => work line ++ ['\n']) ++
    (if last.isEmpty then [] else work last)

end ContainerClients.Program
