import ContainerClients.Program.Files
import ContainerClients.Program.Script.Reader

/-!
# The state of a shell

* `Stream`, `Machine` — what descriptors lead to, and the files: all that shells share.
* `Setting`, `Options`, `Shell` — what a shell has set.
* `Stop`, `Act` — what a shell does: it changes its state, and may be stopped on the way.
* `Act.write`, `Act.complain`, `Act.fail` — writing, and mistakes.
* `Act.value?`, `Act.assign` — variables.
-/

namespace ContainerClients.Program

/-- **What a descriptor leads to.** -/
inductive Stream where
  /-- text to be read -/
  | source (rest : Octets)
  /-- text that has been written, the newest part first -/
  | sink (parts : List Octets)
  /-- a file, read from a place on; it is written there or at its end -/
  | file (path : Path) (place : Nat) (atEnd : Bool)
  /-- nothing: what is written is gone -/
  | nowhere

/-- **What shells share**: streams by their numbers, and files. -/
structure Machine where
  /-- the streams -/
  streams : Array Stream
  /-- the tree of files -/
  files : Files

namespace Machine

/-- A machine with one more stream, and the stream's number. -/
def addStream (machine : Machine) (stream : Stream) : Nat × Machine :=
  (machine.streams.size, { machine with streams := machine.streams.push stream })

/-- The machine with another stream of a number. -/
def setStream (machine : Machine) (k : Nat) (stream : Stream) : Machine :=
  { machine with streams := machine.streams.setIfInBounds k stream }

/-- What can be read from a stream. -/
def readable (machine : Machine) (k : Nat) : Octets :=
  match machine.streams[k]? with
  | some (.source rest) => rest
  | some (.file path place _) =>
    match machine.files.read path with
    | .ok content => content.drop place
    | .error _ => []
  | _ => []

/-- A stream of which a number of characters has been read. -/
def advance (machine : Machine) (k count : Nat) : Machine :=
  match machine.streams[k]? with
  | some (.source rest) => machine.setStream k (.source (rest.drop count))
  | some (.file path place atEnd) => machine.setStream k (.file path (place + count) atEnd)
  | _ => machine

/-- Writes to a stream. -/
def write (machine : Machine) (k : Nat) (s : Octets) : Machine :=
  match machine.streams[k]? with
  | some (.sink parts) => machine.setStream k (.sink (s :: parts))
  | some (.file path place atEnd) =>
    match machine.files.read path with
    | .error _ => machine
    | .ok content =>
      let place := if atEnd then content.length else place
      let gap := List.replicate (place - content.length) '\x00'
      let content := content.take place ++ gap ++ s ++ content.drop (place + s.length)
      match machine.files.write path content with
      | .ok files => { machine.setStream k (.file path (place + s.length) atEnd) with files }
      | .error _ => machine
  | _ => machine

/-- All that has been written to a stream. -/
def written (machine : Machine) (k : Nat) : Octets :=
  match machine.streams[k]? with
  | some (.sink parts) => parts.reverse.flatten
  | _ => []

end Machine

/-- **A variable.** -/
structure Setting where
  /-- its value, if it has one -/
  value : Option Octets
  /-- it is passed to programs -/
  exported : Bool
  /-- it cannot be changed -/
  fixed : Bool
deriving DecidableEq, Repr

/-- **The options** of a shell. -/
structure Options where
  /-- `-e`: the first failure ends the script -/
  stopOnFailure : Bool
  /-- `-u`: a variable that is not set is a mistake -/
  refuseUnset : Bool
  /-- `-f`: patterns are not replaced by the names of files -/
  keepPatterns : Bool
  /-- `-x`: commands are shown -/
  showCommands : Bool
  /-- `-C`: existing files are not overwritten -/
  keepFiles : Bool
  /-- `-a`: variables are passed to programs -/
  exportAll : Bool
  /-- `-n`: commands are read only -/
  readOnly : Bool
  /-- `-v`: lines are shown -/
  showLines : Bool
deriving DecidableEq, Repr

/-- A function of a script. -/
structure Function where
  /-- the line that it starts in -/
  line : Nat
  /-- what it does -/
  body : Script

/-- **What a shell has set, and what it shares.** -/
structure Shell where
  /-- the name that the script is run under -/
  name : Octets
  /-- its arguments -/
  args : List Octets
  /-- the variables -/
  settings : List (Octets × Setting)
  /-- for each function that is being called, the variables that are its own, as they were -/
  hidden : List (List (Octets × Option Setting))
  /-- the functions -/
  functions : List (Octets × Function)
  /-- the aliases -/
  aliases : List (Octets × Octets)
  /-- the options -/
  options : Options
  /-- the last exit status -/
  status : Nat
  /-- the exit status of the last command that was substituted, if there was one -/
  substituted : Option Nat
  /-- the line of the command that is carried out -/
  line : Nat
  /-- the command of the shell that is carried out, for complaints -/
  command : Option Octets
  /-- how many loops are around the command -/
  loops : Nat
  /-- failures are looked at, so that none ends the script -/
  tested : Bool
  /-- the exit status that the script ends with, once it is ending -/
  leaving : Option Nat
  /-- the streams that the descriptors lead to -/
  descriptors : List (Nat × Nat)
  /-- what is done at the end of the script, or when a signal comes -/
  traps : List (Octets × Octets)
  /-- the exit status of each script that runs beside, by its number -/
  jobs : List (Nat × Nat)
  /-- the number of the last of them -/
  lastJob : Option Nat
  /-- the current folder -/
  folder : Path
  /-- the documents of the script -/
  documents : List (Nat × ScriptWord)
  /-- the number of the next document -/
  nextDocument : Nat
  /-- the argument that options are taken from next, and how many characters of the one before are
  used, if it holds more -/
  optionPlace : Nat × Option Nat
  /-- the rights that new files do not get -/
  mask : Octets
  /-- how many commands may still be carried out -/
  budget : Nat
  /-- what is shared -/
  machine : Machine

/-- **Why a shell is stopped.** -/
inductive Stop where
  /-- loops are left, all but the last for good, the last for its next round if `again` -/
  | loops (count : Nat) (again : Bool)
  /-- a function is left -/
  | function
  /-- the script is left -/
  | script
  /-- a mistake: it ends the script unless it is that of a command -/
  | mistake
  /-- the bounds of this shell are reached -/
  | exhausted
deriving DecidableEq, Repr

/-- **What a shell does.** -/
abbrev Act := ExceptT Stop (StateM Shell)

namespace Act

/-- What comes of an act: why it was stopped, if it was. -/
def outcome (act : Act PUnit) : Act (Option Stop) := fun shell =>
  match act shell with
  | (.ok _, shell) => (.ok none, shell)
  | (.error stop, shell) => (.ok (some stop), shell)

/-- Goes on as an outcome says. -/
def resume (outcome : Option Stop) : Act PUnit :=
  match outcome with
  | none => return
  | some stop => throw stop

/-- Sets the exit status. -/
def setStatus (status : Nat) : Act PUnit := modify fun shell => { shell with status }

/-! ## Writing -/

/-- Writes to a descriptor; says whether it leads anywhere. -/
def write (descriptor : Nat) (s : Octets) : Act Bool := do
  match (← get).descriptors.lookup descriptor with
  | some stream =>
    modify fun shell => { shell with machine := shell.machine.write stream s }
    return true
  | none => return false

/-- A complaint as the shell writes it. -/
def complaint (message : Octets) : Act Octets := do
  let shell ← get
  return shell.name ++ ": ".toList ++ Octets.ofNat shell.line ++ ": ".toList ++
    (match shell.command with
    | some name => name ++ ": ".toList
    | none => []) ++ message ++ ['\n']

/-- Complains. -/
def complain (message : Octets) : Act PUnit := do
  discard (write 2 (← complaint message))

/-- **A mistake.** -/
def fail {α : Type} (message : Octets) : Act α := do
  complain message
  setStatus 2
  throw .mistake

/-- A mistake about a text that is no number. -/
def failNumber {α : Type} (s : Octets) : Act α := fail ("Illegal number: ".toList ++ s)

/-! ## Variables -/

/-- The variable of a name. -/
def setting? (name : Octets) : Act (Option Setting) := return (← get).settings.lookup name

/-- The value of a variable. -/
def value? (name : Octets) : Act (Option Octets) := return (← setting? name).bind (·.value)

/-- Puts a variable, or takes it away. -/
def putSetting (name : Octets) (setting : Option Setting) : Act PUnit :=
  modify fun shell => { shell with
    settings := (setting.map (name, ·)).toList ++ shell.settings.filter (·.1 != name) }

/-- **Sets a variable**, unless it cannot be changed. -/
def assign (name value : Octets) : Act PUnit := do
  let shell ← get
  let old := (shell.settings.lookup name).getD ⟨none, false, false⟩
  if old.fixed then fail (name ++ ": is read only".toList)
  putSetting name (some { old with
    value := some value, exported := old.exported || shell.options.exportAll })

/-- The characters that separate fields. -/
def separators : Act Octets := return (← value? "IFS".toList).getD [' ', '\t', '\n']

/-- The variables that are passed to programs. -/
def exported : Act (List (Octets × Octets)) := do
  return (← get).settings.filterMap fun (name, setting) =>
    if setting.exported then setting.value.map (name, ·) else none

end Act

end ContainerClients.Program
