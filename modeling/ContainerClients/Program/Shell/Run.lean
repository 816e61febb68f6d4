import ContainerClients.Program.Shell.Programs

/-!
# Running scripts

A script is carried out by its tree.  What a part of the tree needs to carry out other scripts is
handed to it as `run`, so that only `Act.run` itself goes down the tree.

* `Act.simple` — a single command: its words, its redirections, its variables, and what it names.
* `Act.rounds`, `Act.roundsFor` — loops.
* `Act.run` — a script.

The bounds are a depth for `Act.run` and a number of rounds for each loop.
-/

namespace ContainerClients.Program

/-- How many rounds a loop may take. -/
def mostRounds : Nat := 1000000

namespace Act

/-! ## Single commands -/

/-- The fields of a command's words.  Behind a command that declares variables, a word that sets one
is a single field. -/
def commandFields (run : Script → Act PUnit) : List ScriptWord → Act (List Octets)
  | [] => return []
  | word :: rest => do
    match ← expandWord (capture run) word with
    | [] => commandFields run rest
    | name :: more =>
      let declares := ["export", "readonly", "local", "alias"].contains (String.ofList name) &&
        !(← get).functions.any (·.1 == name)
      let others ← rest.mapM fun word => do
        if declares && word.assignment?.isSome then
          return [← expandText (capture run) true word]
        else expandWord (capture run) word
      return name :: more ++ others.flatten

/-- Sets the variables in front of a command; answers with what is set. -/
def assignAll (run : Script → Act PUnit) (pass : Bool) (assignments : List (Octets × ScriptWord)) :
    Act (List Octets) :=
  assignments.mapM fun (name, word) => do
    let value ← expandText (capture run) true word
    assign name value
    if pass then
      if let some setting := ← setting? name then
        putSetting name (some { setting with exported := true })
    return name ++ '=' :: value

/-- Carries out an act with variables that are set for it only; it is given what is set. -/
def withAssignments (run : Script → Act PUnit) (assignments : List (Octets × ScriptWord))
    (act : List Octets → Act PUnit) : Act PUnit := do
  let shell ← get
  let before := assignments.map fun (name, _) => (name, shell.settings.lookup name)
  let sets ← assignAll run true assignments
  let stop ← outcome (act sets)
  for (name, setting) in before do putSetting name setting
  resume stop

/-- Carries out a command of the shell.  A mistake ends the script only where the command is a
special one. -/
def ownCommand (special : Bool) (name : Octets) (act : Act PUnit) : Act PUnit := do
  let before := (← get).command
  modify fun shell => { shell with command := some name }
  let stop ← outcome act
  modify fun shell => { shell with command := before }
  if special || stop != some .mistake then resume stop

/-- A name that stands for nothing, or for something that cannot be carried out. -/
def failProgram (name : Octets) : Act PUnit := do
  let shell ← get
  if name.isEmpty then
    complain ": Permission denied".toList
    setStatus 127
    return
  let isThere := name.contains '/' &&
    (shell.machine.files.node? (Path.resolve shell.folder name)).isSome
  complain (name ++ (if isThere then ": Permission denied".toList else ": not found".toList))
  setStatus (if isThere then 126 else 127)

/-- Carries out what is to be done when a signal comes to this shell. -/
def signal (run : Script → Act PUnit) (args : List Octets) : Act PUnit := do
  let (name, targets) := match args with
    | ['-', 's'] :: name :: rest => (name, rest)
    | ('-' :: c :: name) :: rest => (c :: name, rest)
    | rest => ("TERM".toList, rest)
  let known := (signalName? name).getD ""
  setStatus 0
  if known != "EXIT" && targets.contains (Octets.ofNat shellNumber) then
    match (← get).traps.lookup known.toList with
    | some action =>
      runText run action
      setStatus 0
    | none =>
      let number := ((signalNames.find? (·.2 == known)).map (·.1)).getD 15
      setStatus (128 + number)
      throw .script

/-- Carries out the text in a file. -/
def runFile (run : Script → Act PUnit) (args : List Octets) : Act PUnit := do
  match args with
  | [] => setStatus 0
  | name :: _ =>
    let shell ← get
    let files := shell.machine.files
    let folders := Text.pieces ':' ((← value? "PATH".toList).getD [])
    let found := if name.contains '/' then some (Path.resolve shell.folder name)
      else folders.findSome? fun folder =>
        let path := Path.resolve shell.folder folder ++ [name]
        if (files.node? path).isSome then some path else none
    match found with
    | none => fail (name ++ ": not found".toList)
    | some path =>
      match files.read path with
      | .error fault => failOpening false name fault
      | .ok text =>
        match ← outcome (runText run text) with
        | some .function => return
        | stop => resume stop

/-- Leaves out `command` and its options in front of a command; says whether there was any. -/
def withoutCommand : List Octets → Bool → Bool × List Octets
  | name :: rest, was =>
    if name == "command".toList then
      match rest with
      | ['-', 'p'] :: rest | ['-', '-'] :: rest => withoutCommand rest true
      | ('-' :: _) :: _ => (was, name :: rest)
      | rest => withoutCommand rest true
    else (was, name :: rest)
  | [], was => (was, [])

/-- **Carries out a command that has a name**, with its arguments; `direct` where functions do not
count. -/
def named (run : Script → Act PUnit) (fuel : Nat) (special direct : Bool) (name : Octets)
    (args : List Octets) : Act PUnit := do
  let shell ← get
  let own (act : Act PUnit) : Act PUnit := ownCommand special name act
  match (if direct || specialCommands.contains (String.ofList name) then none
    else List.lookup name shell.functions) with
  | some function => call run function.body args
  | none =>
    match String.ofList name with
    | "eval" => own (runText run ([' '].intercalate args))
    | "." => own (runFile run args)
    | "kill" => own (signal run args)
    | "exec" =>
      match args with
      | [] => setStatus 0
      | program :: rest =>
        match ← programPath? program with
        | some path =>
          modify fun shell => { shell with traps := [] }
          invoke run fuel program path rest
        | none => ownCommand true name (failProgram program)
        throw .script
    | "command" =>
      let names := args.tail
      own do
        let found ← names.mapM (describe (args.head? == some ['-', 'V']))
        setStatus (if found.all id then 0 else 127)
    | _ =>
      match ownCommand? name args with
      | some act => own act
      | none =>
        match ← programPath? name with
        | some path => invoke run fuel name path args
        | none => failProgram name

/-- Shows a command where the errors go, as the options say. -/
def showCommand (stream : Option Nat) (words : List Octets) : Act PUnit := do
  if (← get).options.showCommands then
    let mark := (← value? "PS4".toList).getD []
    if let some stream := stream then
      modify fun shell => { shell with
        machine := shell.machine.write stream (mark ++ [' '].intercalate words ++ ['\n']) }

/-- **Carries out a single command.** -/
def simple (run : Script → Act PUnit) (fuel line : Nat)
    (assignments : List (Octets × ScriptWord)) (words : List ScriptWord)
    (redirects : List Redirect) : Act PUnit := do
  spend
  modify fun shell => { shell with line, substituted := none }
  let fields ← commandFields run words
  let (direct, fields) := withoutCommand fields false
  let name := fields.headD []
  let isSpecial := !fields.isEmpty && !direct && specialCommands.contains (String.ofList name)
  let errors := (← get).descriptors.lookup 2
  let act : Act PUnit := do
    match fields with
    | [] =>
      showCommand errors (← assignAll run false assignments)
      setStatus ((← get).substituted.getD 0)
    | name :: args =>
      if isSpecial then
        let sets ← assignAll run (name == "exec".toList && !args.isEmpty) assignments
        showCommand errors (sets ++ fields)
        named run fuel true direct name args
      else withAssignments run assignments fun sets => do
        showCommand errors (sets ++ fields)
        named run fuel false direct name args
  let redirected : Act PUnit := do
    match ← outcome (redirects.forM (redirect (capture run))) with
    | none => act
    | some .mistake => if isSpecial then throw .mistake
    | some stop => throw stop
  if isSpecial && name == "exec".toList && fields.length = 1 then redirected
  else keepingDescriptors redirected
  checkFailure

/-! ## Loops -/

/-- Whether a loop goes on behind a round, which may have been stopped. -/
def goesOn (stop : Option Stop) : Act Bool :=
  match stop with
  | none => return true
  | some (.loops count again) =>
    if count ≤ 1 then return again else throw (.loops (count - 1) again)
  | some stop => throw stop

/-- Carries out an act in one more loop. -/
def inLoop (act : Act PUnit) : Act PUnit := do
  let before := (← get).loops
  modify fun shell => { shell with loops := before + 1 }
  let stop ← outcome act
  modify fun shell => { shell with loops := before }
  resume stop

/-- **The rounds of a loop** with a condition; `last` is the status of the round before. -/
def rounds (condition body : Act PUnit) (untilSuccess : Bool) : Nat → Nat → Act PUnit
  | 0, _ => throw .exhausted
  | fuel + 1, last => do
    match ← outcome (withTested true condition) with
    | none =>
      if ((← get).status = 0) != untilSuccess then
        if ← goesOn (← outcome body) then
          rounds condition body untilSuccess fuel (← get).status
      else setStatus last
    | stop => if ← goesOn stop then rounds condition body untilSuccess fuel last

/-- **The rounds of a loop** over fields. -/
def roundsFor (name : Octets) (body : Act PUnit) : List Octets → Act PUnit
  | [] => return
  | s :: rest => do
    assign name s
    if ← goesOn (← outcome body) then roundsFor name body rest

/-- The script of the first case that a text matches. -/
def firstCase (run : Script → Act PUnit) (text : Octets) :
    List (List ScriptWord × Script) → Act Script
  | [] => return .nothing
  | (patterns, body) :: others => do
    if ← patterns.anyM fun word => return (← expandPattern (capture run) word).accepts text then
      return body
    else firstCase run text others

/-! ## Scripts -/

/-- **Carries out a script.** -/
def run : Nat → Script → Act PUnit
  | 0, _ => throw .exhausted
  | fuel + 1, script => do
    match script with
    | .nothing => setStatus 0
    | .simple line assignments words redirects =>
      simple (run fuel) (fuel + 1) line assignments words redirects
    | .sequence first second =>
      run fuel first
      run fuel second
    | .both first second =>
      withTested true (run fuel first)
      if (← get).status = 0 then run fuel second
    | .either first second =>
      withTested true (run fuel first)
      if (← get).status ≠ 0 then run fuel second
    | .pipeline parts =>
      pipeline (run fuel) none parts
      checkFailure
    | .negated script =>
      withTested true (run fuel script)
      setStatus (if (← get).status = 0 then 1 else 0)
    | .background script => beside (run fuel) script
    | .loop untilSuccess condition body =>
      inLoop (rounds (run fuel condition) (run fuel body) untilSuccess mostRounds 0)
    | .each name words body =>
      let fields ← expandWords (capture (run fuel)) words
      setStatus 0
      inLoop (roundsFor name (run fuel body) fields)
    | .branch condition whenTrue whenFalse =>
      withTested true (run fuel condition)
      if (← get).status = 0 then run fuel whenTrue else run fuel whenFalse
    | .choice subject cases =>
      let text ← expandText (capture (run fuel)) false subject
      run fuel (← firstCase (run fuel) text cases)
    | .apart script =>
      apart (run fuel) (run fuel script)
      checkFailure
    | .redirected script redirects =>
      keepingDescriptors do
        match ← outcome (redirects.forM (redirect (capture (run fuel)))) with
        | none => run fuel script
        | some .mistake => return
        | some stop => throw stop
    | .define name line body =>
      modify fun shell => { shell with
        functions := (name, ⟨line, body⟩) :: shell.functions.filter (·.1 != name), status := 0 }

end Act

end ContainerClients.Program
