import ContainerClients.Program.Shell.Apart
import ContainerClients.Program.Toolbox

/-!
# Programs

A program that a script names is another shell, a program that starts others, or a tool.

* `Act.inNewShell`, `Act.shellProgram` — another shell.
* `Act.useTool` — a tool.
* `Batching`, `commandLines` — the command lines that `xargs` makes.
* `Act.invoke` — a program that is found at a path.
-/

namespace ContainerClients.Program

/-- The options at the start. -/
def Options.none : Options := ⟨false, false, false, false, false, false, false, false⟩

namespace Act

/-! ## Shells and tools -/

/-- The variables of a new shell. -/
def startSettings (passed : List (Octets × Octets)) (folder : Path) : List (Octets × Setting) :=
  let own : List (String × Octets) :=
    [("IFS", [' ', '\t', '\n']), ("OPTIND", ['1']), ("PS1", "# ".toList), ("PS2", "> ".toList),
     ("PS4", "+ ".toList), ("PWD", folder.text)]
  let passed := passed.filter fun (name, _) => isName name && name != "IFS".toList
  passed.map (fun (name, value) => (name, ⟨some value, true, false⟩)) ++
    (own.filter fun (name, _) => !passed.any fun entry => entry.1 == name.toList).map
      fun (name, value) => (name.toList, ⟨some value, false, false⟩)

/-- **Carries out a text in a new shell.** -/
def inNewShell (run : Script → Act PUnit) (name : Octets) (args : List Octets) (letters : Octets)
    (text : Octets) : Act PUnit := do
  let passed ← exported
  modify fun shell => { shell with
    name, args, settings := startSettings passed shell.folder, hidden := [], functions := []
    aliases := [], options := .none, status := 0, substituted := none, line := 1, command := none
    loops := 0, tested := false, leaving := none, traps := [], jobs := [], lastJob := none
    optionPlace := (1, none) }
  setLetters true letters
  runText run text

/-- A command line of a shell: the letters of its options, whether the script is an argument, and
the other arguments. -/
def shellArguments : List Octets → Octets → Bool → Octets × Bool × List Octets
  | ['-', '-'] :: rest, letters, given => (letters, given, rest)
  | ['-', 'o'] :: name :: rest, letters, given =>
    let letter := (optionNames.find? (·.2.toList == name)).map (·.1)
    shellArguments rest (letters ++ letter.toList) given
  | ('-' :: c :: more) :: rest, letters, given =>
    shellArguments rest (letters ++ ((c :: more).filter (!"cs".toList.contains ·)))
      (given || (c :: more).contains 'c')
  | rest, letters, given => (letters, given, rest)

/-- **Another shell**, with its arguments. -/
def shellProgram (run : Script → Act PUnit) (name : Octets) (args : List Octets) : Act PUnit := do
  let stdin := args.any fun s => s.head? == some '-' && s.contains 's'
  match shellArguments args [] false with
  | (letters, true, text :: rest) =>
    inNewShell run (rest.headD name) rest.tail letters text
  | (_, true, []) =>
    discard (write 2 (name ++ ": 0: -c requires an argument\n".toList))
    setStatus 2
  | (letters, false, rest) =>
    if stdin || rest.isEmpty then
      let shell ← get
      let text := (shell.descriptors.lookup 0).map shell.machine.readable |>.getD []
      modify fun shell => { shell with
        machine := ((shell.descriptors.lookup 0).map fun stream =>
          shell.machine.advance stream text.length).getD shell.machine }
      inNewShell run name rest letters text
    else
      let file := rest.headD []
      let shell ← get
      match shell.machine.files.read (Path.resolve shell.folder file) with
      | .ok text => inNewShell run file rest.tail letters text
      | .error _ =>
        discard (write 2 (name ++ ": 0: cannot open ".toList ++ file ++ ": No such file\n".toList))
        setStatus 2

/-- Carries out a tool. -/
def useTool (tool : Tool) (name : Octets) (args : List Octets) : Act PUnit := do
  let shell ← get
  let stream := shell.descriptors.lookup 0
  let input := (stream.map shell.machine.readable).getD []
  let seekable := match stream.bind (shell.machine.streams[·]?) with
    | some (.file ..) => true
    | _ => false
  let effect := tool ⟨name, args, input, seekable, shell.machine.files, shell.folder, ← exported⟩
  if let some stream := stream then
    modify fun shell => { shell with
      machine := shell.machine.advance stream (input.length - effect.rest.length) }
  modify fun shell => { shell with machine := { shell.machine with files := effect.files } }
  setStatus effect.exit
  for (channel, s) in effect.writes do
    let written ← write (if channel = .output then 1 else 2) s
    if !written && channel = .output && !s.isEmpty then setStatus 1

/-- A program that starts another one cannot find it. -/
def failStarting (starter message name : Octets) : Act PUnit := do
  discard (write 2 (starter ++ ": ".toList ++ message ++ name ++
    ": No such file or directory\n".toList))
  setStatus 127

/-- A name between quotation marks, as complaints write it. -/
def inQuotes (s : Octets) : Octets := '\'' :: s ++ ['\'']

/-! ## Programs that start others -/

/-- The words of a text for `xargs`: separated by blanks, with quotation marks and backslashes. -/
def argumentWords : Nat → Octets → Option Octets → List Octets
  | 0, _, word => word.toList
  | _, [], word => word.toList
  | fuel + 1, c :: rest, word =>
    if c == ' ' || c == '\t' || c == '\n' then word.toList ++ argumentWords fuel rest none
    else if c == '\'' || c == '"' then
      let inside := rest.takeWhile (· != c)
      argumentWords fuel (rest.drop (inside.length + 1)) (some (word.getD [] ++ inside))
    else if c == '\\' then
      match rest with
      | d :: rest => argumentWords fuel rest (some (word.getD [] ++ [d]))
      | [] => word.toList
    else argumentWords fuel rest (some (word.getD [] ++ [c]))

/-- How `xargs` makes command lines. -/
structure Batching where
  /-- how many words go into one command line -/
  count : Option Nat
  /-- a text that each line of the input takes the place of -/
  replaced : Option Octets
  /-- the character that separates the words, where it is not any blank -/
  separator : Option Char
  /-- no command line without words -/
  notEmpty : Bool

/-- The options of `xargs`, and what follows them. -/
def readBatching (batching : Batching) : List Octets → Batching × List Octets
  | ['-', 'n'] :: s :: rest => readBatching { batching with count := Octets.natural? s } rest
  | ['-', 'I'] :: s :: rest => readBatching { batching with replaced := some s } rest
  | ['-', 'd'] :: s :: rest => readBatching { batching with
      separator :=
        some ((unescapeAll ⟨false, false, false, false, false, false⟩ s).1.headD '\n') } rest
  | ['-', '0'] :: rest => readBatching { batching with separator := some '\x00' } rest
  | ['-', 'r'] :: rest => readBatching { batching with notEmpty := true } rest
  | ('-' :: 'n' :: s) :: rest => readBatching { batching with count := Octets.natural? s } rest
  | ('-' :: 'I' :: s) :: rest => readBatching { batching with replaced := some s } rest
  | rest => (batching, rest)

/-- A text with each occurrence of another one replaced. -/
def replaceEach (old new : Octets) : Nat → Octets → Octets
  | 0, s => s
  | _, [] => []
  | fuel + 1, c :: rest =>
    if !old.isEmpty && old.isPrefixOf (c :: rest) then
      new ++ replaceEach old new fuel ((c :: rest).drop old.length)
    else c :: replaceEach old new fuel rest

/-- Lists of at most so many members. -/
def inGroups (count : Nat) : Nat → List Octets → List (List Octets)
  | 0, _ => []
  | _, [] => []
  | fuel + 1, words =>
    words.take (max count 1) :: inGroups count fuel (words.drop (max count 1))

/-- The command lines that `xargs` makes of a command and its input. -/
def commandLines (batching : Batching) (command : List Octets) (input : Octets) :
    List (List Octets) :=
  match batching.replaced with
  | some mark =>
    (input.lines.map (·.dropWhile fun c => c == ' ' || c == '\t')).filter (!·.isEmpty) |>.map
      fun line => command.map fun word => replaceEach mark line (word.length + 1) word
  | none =>
    let words := match batching.separator with
      | some c =>
        let all := Text.pieces c input
        if all.getLast? == some [] then all.dropLast else all
      | none => argumentWords (input.length + 1) input none
    let groups := match batching.count with
      | some count => inGroups count (words.length + 1) words
      | none => if words.isEmpty then [] else [words]
    if groups.isEmpty && !batching.notEmpty then [command]
    else groups.map (command ++ ·)

mutual

/-- Starts a program by its name, for a program that starts others; the number bounds how many
start one another. -/
def start (run : Script → Act PUnit) : Nat → Octets → Octets → List Octets → Act PUnit
  | 0, _, _, _ => throw .exhausted
  | fuel + 1, starter, message, argv => do
    match argv with
    | [] => setStatus 0
    | name :: args =>
      match ← programPath? name with
      | some path => invoke run fuel name path args
      | none =>
        failStarting starter message (if message.isEmpty && starter == "xargs".toList then name
          else inQuotes name)

/-- **Carries out a program** that is found at a path. -/
def invoke (run : Script → Act PUnit) : Nat → Octets → Path → List Octets → Act PUnit
  | 0, _, _, _ => throw .exhausted
  | fuel + 1, name, path, args => do
    let files := (← get).machine.files
    match files.node? path with
    | some (.file text _) => apart run (inNewShell run name args [] text)
    | _ =>
      let base := path.getLast?.getD []
      match String.ofList base with
      | "sh" | "dash" | "bash" => apart run (shellProgram run name args)
      | "test" | "[" => apart run ((ownCommand? base args).getD (setStatus 127))
      | "env" => apart run (environment run fuel args)
      | "xargs" =>
        let shell ← get
        let stream := shell.descriptors.lookup 0
        let input := (stream.map shell.machine.readable).getD []
        if let some stream := stream then
          modify fun shell => { shell with
            machine := shell.machine.advance stream input.length }
        let (batching, command) := readBatching ⟨none, none, none, false⟩ args
        let command := if command.isEmpty then ["echo".toList] else command
        setStatus 0
        inTurn run fuel (commandLines batching command input)
      | "nohup" | "setsid" => apart run (start run fuel base "failed to run command ".toList args)
      | "nice" =>
        let args := match args with
          | ['-', 'n'] :: _ :: rest => rest
          | args => args.dropWhile (·.head? == some '-')
        apart run (start run fuel base [] args)
      | "timeout" =>
        apart run (start run fuel base "failed to run command ".toList
          ((args.dropWhile (·.head? == some '-')).drop 1))
      | program =>
        match tool? program with
        | some tool => useTool tool name args
        | none => setStatus 127

/-- Carries out command lines in turn; a failure is remembered. -/
def inTurn (run : Script → Act PUnit) : Nat → List (List Octets) → Act PUnit
  | 0, _ => throw .exhausted
  | _, [] => return
  | fuel + 1, argv :: others => do
    let before := (← get).status
    apart run (start run fuel "xargs".toList [] argv)
    let status := (← get).status
    if status = 127 then return
    setStatus (if status ≠ 0 then 123 else before)
    inTurn run fuel others

/-- **A program in a changed environment**, or the environment itself. -/
def environment (run : Script → Act PUnit) : Nat → List Octets → Act PUnit
  | 0, _ => throw .exhausted
  | fuel + 1, args => do
    match args with
    | ['-', 'i'] :: rest | ['-'] :: rest =>
      modify fun shell => { shell with settings := shell.settings.filter (!·.2.exported) }
      environment run fuel rest
    | ['-', 'u'] :: name :: rest =>
      putSetting name none
      environment run fuel rest
    | s :: rest =>
      match splitSetting s with
      | (name, some value) =>
        putSetting name (some ⟨some value, true, false⟩)
        environment run fuel rest
      | (_, none) => start run fuel "env".toList [] args
    | [] =>
      let passed ← exported
      print (passed.flatMap fun (name, value) => name ++ ['='] ++ value ++ ['\n'])

end

end Act

end ContainerClients.Program
