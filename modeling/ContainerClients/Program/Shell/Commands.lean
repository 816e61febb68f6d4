import ContainerClients.Program.Printf
import ContainerClients.Program.Shell.Condition
import ContainerClients.Program.Shell.Descriptors
import ContainerClients.Program.Shell.Reading

/-!
# Commands of the shell

The commands that the shell carries out itself and that do not run any script.

* `Act.echo`, `Act.printf` — writing.
* `Act.leave` and its companions — leaving loops, functions and the script.
* `Act.setArguments`, `Act.declare`, `Act.unset` and others — options, arguments and variables.
* `Act.nextOption` — options of a script.
* `Act.describe` — what a name stands for.
* `ownCommand?` — the command of a name.
-/

namespace ContainerClients.Program

/-- The escapes of `echo` and of `%b`. -/
def argumentEscapes : EscapeRules := ⟨true, false, false, true, true, false⟩

/-- The escapes of formats. -/
def shellFormat : FormatRules where
  inFormat := ⟨false, false, false, false, true, false⟩
  inArgument := argumentEscapes
  bits := 53
  sizes := false
  noNumber s := s ++ ": expected numeric value".toList
  partNumber s := s ++ ": not completely converted".toList
  tooGreat s := s ++ ": Numerical result out of range".toList
  noDirective s := s ++ ": invalid directive".toList
  noLetter _ := "missing format character".toList

/-- The commands that are part of the shell but can be redefined. -/
def regularCommands : List String :=
  ["[", "alias", "bg", "cd", "chdir", "command", "echo", "false", "fg", "getopts", "hash", "jobs",
   "kill", "printf", "pwd", "read", "test", "true", "type", "ulimit", "umask", "unalias", "wait"]

/-- The letters of the options, with their names. -/
def optionNames : List (Char × String) :=
  [('e', "errexit"), ('f', "noglob"), ('I', "ignoreeof"), ('i', "interactive"), ('m', "monitor"),
   ('n', "noexec"), ('s', "stdin"), ('x', "xtrace"), ('v', "verbose"), ('V', "vi"), ('E', "emacs"),
   ('C', "noclobber"), ('a', "allexport"), ('b', "notify"), ('u', "nounset")]

/-- The options with one of them set or not; nothing for a letter that is no option. -/
def Options.setLetter? (options : Options) (letter : Char) (value : Bool) : Option Options :=
  match letter with
  | 'e' => some { options with stopOnFailure := value }
  | 'u' => some { options with refuseUnset := value }
  | 'f' => some { options with keepPatterns := value }
  | 'x' => some { options with showCommands := value }
  | 'C' => some { options with keepFiles := value }
  | 'a' => some { options with exportAll := value }
  | 'n' => some { options with readOnly := value }
  | 'v' => some { options with showLines := value }
  | c => if optionNames.any (·.1 == c) then some options else none

/-- The signals that can be waited for, by their numbers. -/
def signalNames : List (Nat × String) :=
  [(0, "EXIT"), (1, "HUP"), (2, "INT"), (3, "QUIT"), (6, "ABRT"), (9, "KILL"), (10, "USR1"),
   (12, "USR2"), (13, "PIPE"), (14, "ALRM"), (15, "TERM"), (17, "CHLD"), (18, "CONT")]

/-- The name of a signal that is given by its number or its name. -/
def signalName? (s : Octets) : Option String :=
  let name := s.map Char.toUpper
  let name := if "SIG".toList.isPrefixOf name then name.drop 3 else name
  (signalNames.find? fun (number, known) =>
    Octets.natural? s == some number || known.toList == name).map (·.2)

/-- A text in single quotes. -/
def singleQuoted (s : Octets) : Octets :=
  '\'' :: s.flatMap (fun c => if c == '\'' then "'\"'\"'".toList else [c]) ++ ['\'']

namespace Act

/-- Writes to the output, and succeeds if it leads anywhere. -/
def print (s : Octets) : Act PUnit := do
  let written ← write 1 s
  if written || s.isEmpty then setStatus 0
  else
    complain ((← get).command.getD [] ++ ": I/O error".toList)
    setStatus 1

/-- Writes words, with escapes; without a line end where the first is `-n`. -/
def echo (args : List Octets) : Act PUnit := do
  let quiet := args.head? == some ['-', 'n']
  let words := if quiet then args.tail else args
  let (text, stop) := unescapeAll argumentEscapes ([' '].intercalate words)
  print (if stop || quiet then text else text ++ ['\n'])

/-- Writes arguments by a format. -/
def printf (args : List Octets) : Act PUnit := do
  let args ← match args with
    | ['-', '-'] :: rest => pure rest
    | ('-' :: c :: _) :: _ => fail ("Illegal option -".toList ++ [c])
    | args => pure args
  match args with
  | [] => fail "usage: printf format [arg ...]".toList
  | format :: args =>
    let formatted := formatAll shellFormat format args
    for complaint in formatted.complaints do complain complaint
    match formatted.failure with
    | some message =>
      complain message
      print formatted.output
      setStatus 2
      throw .mistake
    | none =>
      print formatted.output
      if !formatted.complaints.isEmpty then setStatus 1

/-- The number that an argument is. -/
def natural (s : Octets) : Act Nat :=
  match Octets.natural? s with
  | some n => if n < 2147483648 then return n else failNumber s
  | none => failNumber s

/-- Leaves loops. -/
def leaveLoops (again : Bool) (args : List Octets) : Act PUnit := do
  let count ← match args with
    | [] => pure 1
    | s :: _ => do
      let n ← natural s
      if n = 0 then failNumber s else pure n
  setStatus 0
  let count := min count (← get).loops
  if count ≠ 0 then throw (.loops count again)

/-- Leaves a function or the script, with the last status or another one.  A script that is ending
already keeps its status unless there is another one. -/
def leave (stop : Stop) (args : List Octets) : Act PUnit := do
  match args, (← get).leaving with
  | s :: _, _ => setStatus (← natural s)
  | [], some status => if stop = .script then setStatus status
  | [], none => pure ()
  throw stop

/-- Leaves arguments out at the front. -/
def shift (args : List Octets) : Act PUnit := do
  let count ← match args with
    | [] => pure 1
    | s :: _ => natural s
  let shell ← get
  if count > shell.args.length then fail "can't shift that many".toList
  set { shell with args := shell.args.drop count, status := 0 }

/-- A variable as a command that sets it. -/
def settingText (front name : Octets) (value : Option Octets) : Octets :=
  front ++ name ++ (value.map fun s => '=' :: singleQuoted s).getD [] ++ ['\n']

/-- The variables as commands that set them, in the order of their names. -/
def settingsText (front : Octets) (select : Setting → Bool) : Act Octets := do
  let chosen := (← get).settings.filter fun entry => select entry.2
  let sorted := chosen.mergeSort fun a b => Octets.le a.1 b.1
  return sorted.flatMap fun (name, setting) => settingText front name setting.value

/-- Sets options by letters. -/
def setLetters (value : Bool) (letters : Octets) : Act PUnit := do
  for letter in letters do
    match (← get).options.setLetter? letter value with
    | some options => modify fun shell => { shell with options }
    | none => fail ("Illegal option ".toList ++ [if value then '-' else '+', letter])

/-- Sets an option by its name. -/
def setNamed (value : Bool) (name : Octets) : Act PUnit := do
  match optionNames.find? fun entry => entry.2.toList == name with
  | some (letter, _) => setLetters value [letter]
  | none => fail ("Illegal option ".toList ++ [if value then '-' else '+', 'o', ' '] ++ name)

/-- **Sets options and arguments.** -/
def setArguments : List Octets → Bool → Act PUnit
  | [], _ => setStatus 0
  | ['-', '-'] :: args, _ | ['-'] :: args, _ => modify fun shell => { shell with args, status := 0 }
  | ['-', 'o'] :: name :: rest, _ => do
    setNamed true name
    setArguments rest true
  | ['+', 'o'] :: name :: rest, _ => do
    setNamed false name
    setArguments rest true
  | ('-' :: letters) :: rest, _ => do
    setLetters true letters
    setArguments rest true
  | ('+' :: letters) :: rest, _ => do
    setLetters false letters
    setArguments rest true
  | args, _ => modify fun shell => { shell with args, status := 0 }

/-- The command `set`. -/
def setCommand (args : List Octets) : Act PUnit := do
  if args.isEmpty then print (← settingsText [] (·.value.isSome))
  else setArguments args false

/-- The name and value of an argument that sets a variable. -/
def splitSetting (s : Octets) : Octets × Option Octets :=
  match Text.cutFirst '=' s with
  | some (name, value) => (name, some value)
  | none => (s, none)

/-- **Declares variables**: that they are passed to programs, or cannot be changed. -/
def declareSettings (front : String) (change : Setting → Setting) (select : Setting → Bool)
    (args : List Octets) : Act PUnit := do
  let names := match args with
    | ['-', 'p'] :: rest => rest
    | ['-', '-'] :: rest => rest
    | args => args
  if names.isEmpty then print (← settingsText (front.toList ++ [' ']) select)
  else
    for s in names do
      let (name, value) := splitSetting s
      if !isName name then fail (name ++ ": bad variable name".toList)
      if let some value := value then Act.assign name value
      let setting := (← setting? name).getD ⟨none, false, false⟩
      putSetting name (some (change setting))
    setStatus 0

/-- Declares variables of a function, which keep their values until they are set. -/
def declareOwn (args : List Octets) : Act PUnit := do
  for s in args do
    let shell ← get
    match shell.hidden with
    | [] => fail "not in a function".toList
    | frame :: others =>
      let (name, value) := splitSetting s
      if !isName name && name != ['-'] then fail (name ++ ": bad variable name".toList)
      if frame.all (·.1 != name) then
        modify fun shell => { shell with
          hidden := ((name, shell.settings.lookup name) :: frame) :: others }
      if let some value := value then Act.assign name value
  if (← get).hidden.isEmpty then fail "not in a function".toList
  setStatus 0

/-- Takes variables or functions away. -/
def unset : List Octets → Act PUnit
  | ['-', 'f'] :: names => modify fun shell => { shell with
      functions := shell.functions.filter fun entry => !names.contains entry.1, status := 0 }
  | args => do
    let names := match args with
      | ['-', 'v'] :: names | ['-', '-'] :: names => names
      | names => names
    for name in names do
      match ← setting? name with
      | some setting =>
        if setting.fixed then fail (name ++ ": is read only".toList)
        putSetting name none
      | none => if !isName name then fail (name ++ ": bad variable name".toList)
    setStatus 0

/-- Goes to another folder. -/
def changeFolder (args : List Octets) : Act PUnit := do
  let args := args.filter fun s => s != ['-', 'L'] && s != ['-', 'P'] && s != ['-', '-']
  let (target, shows) ← match args with
    | [] => pure ((← value? "HOME".toList).getD [], false)
    | ['-'] :: _ => pure ((← value? "OLDPWD".toList).getD [], true)
    | s :: _ => pure (s, false)
  let shell ← get
  let files := shell.machine.files
  let isPlain := ["/".toList, "./".toList, "../".toList].all fun front =>
    !front.isPrefixOf (target ++ ['/'])
  let searched := (← value? "CDPATH".toList).getD []
  let folders := if isPlain && !shows then (Text.pieces ':' searched).filter (!·.isEmpty) else []
  let found := folders.findSome? fun folder =>
    let path := Path.resolve shell.folder (folder ++ '/' :: target)
    if files.isFolder path then some path else none
  let path := found.getD (Path.resolve shell.folder target)
  if !files.isFolder path then fail ("can't cd to ".toList ++ target)
  modify fun shell => { shell with folder := path }
  Act.assign "OLDPWD".toList shell.folder.text
  Act.assign "PWD".toList path.text
  if shows || found.isSome then print (path.text ++ ['\n']) else setStatus 0

/-- Sets what is done when a signal comes, or shows it. -/
def trap (args : List Octets) : Act PUnit := do
  let args := if args.head? == some ['-', '-'] then args.tail else args
  let store (action : Option Octets) (signals : List Octets) : Act PUnit := do
    setStatus 0
    for s in signals do
      match signalName? s with
      | some name =>
        modify fun shell => { shell with
          traps := (action.map (name.toList, ·)).toList ++
            shell.traps.filter (·.1 != name.toList) }
      | none =>
        complain (s ++ ": bad trap".toList)
        setStatus 1
  match args with
  | [] =>
    let traps := (← get).traps
    print (signalNames.flatMap fun (_, name) =>
      match traps.lookup name.toList with
      | some action => "trap -- ".toList ++ singleQuoted action ++ [' '] ++ name.toList ++ ['\n']
      | none => [])
  | [signal] => store none [signal]
  | ['-'] :: signals => store none signals
  | action :: signals => store (some action) signals

/-- Defines aliases, or shows them. -/
def defineAliases (args : List Octets) : Act PUnit := do
  let text (name value : Octets) : Octets := name ++ ['='] ++ singleQuoted value ++ ['\n']
  if args.isEmpty then print ((← get).aliases.flatMap fun (name, value) => text name value)
  else
    setStatus 0
    for s in args do
      match splitSetting s with
      | (name, some value) => modify fun shell => { shell with
          aliases := (name, value) :: shell.aliases.filter (·.1 != name) }
      | (name, none) =>
        match List.lookup name (← get).aliases with
        | some value => print (text name value)
        | none =>
          discard (write 2 ("alias: ".toList ++ name ++ " not found\n".toList))
          setStatus 1

/-- Takes aliases away. -/
def removeAliases (args : List Octets) : Act PUnit := do
  let shell ← get
  let all := args.contains ['-', 'a']
  let known := args.all fun name => all || shell.aliases.any (·.1 == name)
  set { shell with
    aliases := if all then [] else shell.aliases.filter fun entry => !args.contains entry.1
    status := if known then 0 else 1 }

/-- The exit status of a script that ran beside. -/
def waitFor (args : List Octets) : Act PUnit := do
  let jobs := (← get).jobs
  setStatus (match args.getLast? with
    | none => 0
    | some s => ((Octets.natural? s).bind (List.lookup · jobs)).getD 127)

/-- The rights that new files get, in letters. -/
def maskLetters (mask : Octets) : Octets :=
  let rights (c : Char) : Octets :=
    let n := c.toNat - 48
    (if n / 4 % 2 = 0 then ['r'] else []) ++ (if n / 2 % 2 = 0 then ['w'] else []) ++
      (if n % 2 = 0 then ['x'] else [])
  let of (k : Nat) : Octets := rights ((mask[k]?).getD '0')
  "u=".toList ++ of 1 ++ ",g=".toList ++ of 2 ++ ",o=".toList ++ of 3

/-- The rights that new files do not get. -/
def fileMask (args : List Octets) : Act PUnit := do
  match args with
  | [] => print ((← get).mask ++ ['\n'])
  | ['-', 'S'] :: _ => print (maskLetters (← get).mask ++ ['\n'])
  | s :: _ =>
    if !s.isEmpty && s.all fun c => '0' ≤ c && c ≤ '7' then
      modify fun shell => { shell with mask := Octets.padStart 4 '0' s, status := 0 }
    else setStatus 0

/-! ## Options of a script -/

/-- **The next option** of the arguments: its letter, in a variable, and its argument, in
`OPTARG`. -/
def nextOption (args : List Octets) : Act PUnit := do
  match args with
  | letters :: name :: rest =>
    let shell ← get
    let args := if rest.isEmpty then shell.args else rest
    let place := ((← value? "OPTIND".toList).bind Octets.natural?).getD 1
    let inside := if shell.optionPlace.1 = place then shell.optionPlace.2 else none
    let current : Octets := match inside with
      | some used => ((args[place - 2]?).getD []).drop used
      | none => []
    let finish (next : Nat) (inside : Option Nat) (letter : Char) (status : Nat) : Act PUnit := do
      Act.assign "OPTIND".toList (Octets.ofNat next)
      modify fun shell => { shell with optionPlace := (next, inside) }
      Act.assign name [letter]
      setStatus status
    let take (next : Nat) (word : Octets) (used : Nat) : Act PUnit := do
      let c := word.headD '?'
      let left := word.tail
      let quiet := letters.head? == some ':'
      let stay : Option Nat := if left.isEmpty then none else some (used + 1)
      match afterLetter c letters with
      | none =>
        if quiet then Act.assign "OPTARG".toList [c]
        else
          discard (write 2 ("Illegal option -".toList ++ [c, '\n']))
          putSetting "OPTARG".toList none
        finish next stay '?' 0
      | some false =>
        Act.assign "OPTARG".toList []
        finish next stay c 0
      | some true =>
        if !left.isEmpty then
          Act.assign "OPTARG".toList left
          finish next none c 0
        else match args[next - 1]? with
          | some value =>
            Act.assign "OPTARG".toList value
            finish (next + 1) none c 0
          | none =>
            if quiet then
              Act.assign "OPTARG".toList [c]
              finish next none ':' 0
            else
              discard (write 2 ("No arg for -".toList ++ [c] ++ " option\n".toList))
              putSetting "OPTARG".toList none
              finish next none '?' 0
    if !current.isEmpty then take place current (inside.getD 0)
    else
      match args[place - 1]? with
      | some ['-', '-'] => finish (place + 1) none '?' 1
      | some ('-' :: c :: more) => take (place + 1) (c :: more) 1
      | _ => finish place none '?' 1
  | _ => fail "usage: getopts optstring var [arg]".toList
where
  /-- Whether the option of a letter has an argument; nothing if there is no such option. -/
  afterLetter (c : Char) : Octets → Option Bool
    | [] => none
    | d :: rest => if d == c && d != ':' then some (rest.head? == some ':') else afterLetter c rest

/-! ## What names stand for -/

/-- The program of a name: in the folders of the search path, or where the name leads. -/
def programPath? (name : Octets) : Act (Option Path) := do
  let shell ← get
  let files := shell.machine.files
  if name.contains '/' then
    let path := Path.resolve shell.folder name
    return if files.isRunnable path then some path else none
  else
    let folders := Text.pieces ':' ((← value? "PATH".toList).getD [])
    return folders.findSome? fun folder =>
      let path := Path.resolve shell.folder folder ++ [name]
      if files.isRunnable path then some path else none

/-- The way a program is found, as it is written. -/
def programText? (name : Octets) : Act (Option Octets) := do
  match ← programPath? name with
  | some path => return some (if name.contains '/' then name else path.text)
  | none => return none

/-- **What a name stands for**, in a sentence or as the command alone. -/
def describe (inSentence : Bool) (name : Octets) : Act Bool := do
  let shell ← get
  let tell (s : String) : Act Bool := do
    discard (write 1 (if inSentence then name ++ s.toList ++ ['\n'] else name ++ ['\n']))
    return true
  let word := String.ofList name
  if keywords.contains word then tell " is a shell keyword"
  else match List.lookup name shell.aliases with
    | some value =>
      discard (write 1 (if inSentence then name ++ " is an alias for ".toList ++ value ++ ['\n']
        else "alias ".toList ++ name ++ ['='] ++ singleQuoted value ++ ['\n']))
      return true
    | none =>
      if specialCommands.contains word then tell " is a special shell builtin"
      else if shell.functions.any (·.1 == name) then tell " is a shell function"
      else if regularCommands.contains word then tell " is a shell builtin"
      else match ← programText? name with
        | some path =>
          discard (write 1 (if inSentence then name ++ " is ".toList ++ path ++ ['\n']
            else path ++ ['\n']))
          return true
        | none =>
          if inSentence then discard (write 1 (name ++ ": not found\n".toList))
          return false

/-- Describes names. -/
def describeAll (names : List Octets) : Act PUnit := do
  let found ← names.mapM (describe true)
  setStatus (if found.all id then 0 else 127)

end Act

/-- **The command of the shell that has a name**, unless it runs scripts. -/
def ownCommand? (name : Octets) (args : List Octets) : Option (Act PUnit) :=
  match String.ofList name with
  | ":" | "true" | "hash" | "jobs" => some (Act.setStatus 0)
  | "fg" | "bg" => some (Act.fail "No current job".toList)
  | "false" => some (Act.setStatus 1)
  | "echo" => some (Act.echo args)
  | "printf" => some (Act.printf args)
  | "test" => some do
    Act.setStatus (if ← Act.condition args then 0 else 1)
  | "[" => some do
    if args.getLast? != some [']'] then Act.fail "missing ]".toList
    Act.setStatus (if ← Act.condition args.dropLast then 0 else 1)
  | "exit" => some (Act.leave .script args)
  | "return" => some (Act.leave .function args)
  | "break" => some (Act.leaveLoops false args)
  | "continue" => some (Act.leaveLoops true args)
  | "shift" => some (Act.shift args)
  | "set" => some (Act.setCommand args)
  | "export" => some (Act.declareSettings "export" ({ · with exported := true }) (·.exported) args)
  | "readonly" => some (Act.declareSettings "readonly" ({ · with fixed := true }) (·.fixed) args)
  | "local" => some (Act.declareOwn args)
  | "unset" => some (Act.unset args)
  | "read" => some (Act.readLine args)
  | "cd" | "chdir" => some (Act.changeFolder args)
  | "pwd" => some do Act.print ((← get).folder.text ++ ['\n'])
  | "trap" => some (Act.trap args)
  | "alias" => some (Act.defineAliases args)
  | "unalias" => some (Act.removeAliases args)
  | "wait" => some (Act.waitFor args)
  | "umask" => some (Act.fileMask args)
  | "ulimit" => some (Act.print "unlimited\n".toList)
  | "times" => some (Act.print
      "0m0.000000s 0m0.000000s\n0m0.000000s 0m0.000000s\n".toList)
  | "getopts" => some (Act.nextOption args)
  | "type" => some (Act.describeAll args)
  | _ => none

end ContainerClients.Program
