import ContainerClients.Program.Shell.Expansion

/-!
# Descriptors

* `Act.openFile` — a stream that leads to a file.
* `Act.redirect` — a redirection; one that cannot be done is a mistake.
* `Act.keepingDescriptors` — an act behind which the descriptors lead where they did before.
* `Act.withOutput` — an act whose output is kept.
-/

namespace ContainerClients.Program.Act

/-- Lets a descriptor lead to a stream. -/
def lead (descriptor stream : Nat) : Act PUnit := modify fun shell => { shell with
  descriptors := (descriptor, stream) :: shell.descriptors.filter (·.1 != descriptor) }

/-- Closes a descriptor. -/
def closeDescriptor (descriptor : Nat) : Act PUnit := modify fun shell => { shell with
  descriptors := shell.descriptors.filter (·.1 != descriptor) }

/-- A new stream. -/
def addStream (stream : Stream) : Act Nat := modifyGet fun shell =>
  let (number, machine) := shell.machine.addStream stream
  (number, { shell with machine })

/-- Lets a descriptor lead where another one does. -/
def copyDescriptor (descriptor source : Nat) : Act PUnit := do
  match (← get).descriptors.lookup source with
  | some stream => lead descriptor stream
  | none => fail (Octets.ofNat source ++ ": Bad file descriptor".toList)

/-- The descriptor that the name of a file stands for. -/
def descriptorOfName? (name : Octets) : Option Nat :=
  match String.ofList name with
  | "/dev/stdin" => some 0
  | "/dev/stdout" => some 1
  | "/dev/stderr" => some 2
  | _ =>
    let folder := "/dev/fd/".toList
    if folder.isPrefixOf name then Octets.natural? (name.drop folder.length) else none

/-- How complaints about a redirection speak of a fault. -/
def openingFault (create : Bool) : FileFault → String
  | .missing => if create then "Directory nonexistent" else "No such file"
  | fault => fault.message

/-- A file cannot be opened. -/
def failOpening {α : Type} (create : Bool) (name : Octets) (fault : FileFault) : Act α :=
  fail ("cannot ".toList ++ (if create then "create ".toList else "open ".toList) ++ name ++
    ": ".toList ++ (openingFault create fault).toList)

/-- **A stream that leads to a file.** -/
def openFile (opening : Opening) (name : Octets) : Act Nat := do
  let shell ← get
  let path := Path.resolve shell.folder name
  let files := shell.machine.files
  let node := if name.isEmpty then none else files.node? path
  let create := opening != .reading
  match node with
  | some .null => addStream .nowhere
  | some .folder =>
    if create then failOpening create name .isFolder else addStream (.source [])
  | some _ =>
    let exists? := opening == .writing && shell.options.keepFiles
    if exists? then failOpening create name .present
    let content := match files.read path with
      | .ok content => content
      | .error _ => []
    if opening == .writing || opening == .overwriting then
      match files.write path [] with
      | .ok files => modify fun shell => { shell with machine := { shell.machine with files } }
      | .error fault => failOpening create name fault
    addStream (.file path (if opening == .appending then content.length else 0)
      (opening == .appending))
  | none =>
    if !create || name.isEmpty then failOpening create name (files.absence path)
    else
      match files.write path [] with
      | .ok files =>
        modify fun shell => { shell with machine := { shell.machine with files } }
        addStream (.file path 0 (opening == .appending))
      | .error fault => failOpening create name fault

/-- **A redirection.** -/
def redirect (capture : Script → Act Octets) (step : Redirect) : Act PUnit := do
  match step with
  | .file descriptor opening target =>
    let name ← expandText capture false target
    match descriptorOfName? name with
    | some source => copyDescriptor descriptor source
    | none => lead descriptor (← openFile opening name)
  | .copy descriptor source =>
    match ← expandText capture false source with
    | ['-'] => closeDescriptor descriptor
    | s =>
      match s, Octets.natural? s with
      | [_], some number => copyDescriptor descriptor number
      | _, _ => fail "Syntax error: Bad fd number".toList
  | .document descriptor number =>
    let word := ((← get).documents.lookup number).getD []
    lead descriptor (← addStream (.source (← expandDocument capture word)))

/-- **Behind an act, the descriptors lead where they did before.** -/
def keepingDescriptors (act : Act PUnit) : Act PUnit := do
  let descriptors := (← get).descriptors
  let stop ← outcome act
  modify fun shell => { shell with descriptors }
  resume stop

/-- **What an act writes to its output.** -/
def withOutput (act : Act PUnit) : Act Octets := do
  let stream ← addStream (.sink [])
  keepingDescriptors (do
    lead 1 stream
    act)
  return (← get).machine.written stream

end ContainerClients.Program.Act
