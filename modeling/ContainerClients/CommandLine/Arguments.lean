import ContainerClients.CommandLine.Options

/-!
# Reading arguments

Arguments are read in two passes.  The first says of each word whether it is an option; the second
takes options, their values and the positional word in order.

* `classify` — what a word is.  An option may be shortened as long as it stays the only one, and
  its value may follow a `=`.  A word behind `--` is never an option, nor is a negative number or a
  word with a space in it.
* `cluster` — short options written together behind one dash.
* `Grammar.parse` — the second pass.  Words without a meaning are collected.
-/

namespace ContainerClients.CommandLine

open ContainerClients.Text

/-! ## What a word is -/

/-- **What a word is.** -/
inductive WordClass where
  /-- a value or a positional word -/
  | argument
  /-- the first `--` -/
  | separator
  /-- an option, the spelling that it is meant by, and the value that is written with it -/
  | option (option : OptionName) (spelling : String) (value : Option (List Char))
  /-- a word that looks like an option and is none -/
  | unknown
deriving DecidableEq, Repr

/-- A word and what it is. -/
structure Word where
  /-- the word -/
  text : String
  /-- what it is -/
  cls : WordClass
deriving DecidableEq, Repr

/-- The spellings that a grammar knows, with their options. -/
def Grammar.spellings (grammar : Grammar) : List (String × OptionName) :=
  grammar.options.flatMap fun option => option.spellings.map fun spelling => (spelling, option)

/-- The option of a spelling. -/
def Grammar.option? (grammar : Grammar) (spelling : String) : Option OptionName :=
  (grammar.spellings.find? (·.1 == spelling)).map (·.2)

/-- A negative number: digits, or a decimal fraction without an exponent; a line end may follow. -/
def isNegativeNumber (word : List Char) : Bool :=
  match word with
  | '-' :: rest =>
    let body := if rest.getLast? == some '\n' then rest.dropLast else rest
    match cutFirst '.' body with
    | some (whole, fraction) =>
      whole.all isDecimalDigit && !fraction.isEmpty && fraction.all isDecimalDigit
    | none => !body.isEmpty && body.all isDecimalDigit
  | _ => false

/-- The options that a word may be short for. -/
def Grammar.candidates (grammar : Grammar) (word : List Char) : List WordClass :=
  match word with
  | '-' :: '-' :: _ =>
    let (name, value) := match cutFirst '=' word with
      | some (name, value) => (name, some value)
      | none => (word, none)
    grammar.spellings.filterMap fun entry =>
      if name.isPrefixOf entry.1.toList then some (.option entry.2 entry.1 value) else none
  | _ =>
    grammar.spellings.filterMap fun entry =>
      if entry.1.toList == word.take 2 then some (.option entry.2 entry.1 (some (word.drop 2)))
      else if word.isPrefixOf entry.1.toList then some (.option entry.2 entry.1 none)
      else none

/-- The spelling of an option. -/
def WordClass.spelling : WordClass → String
  | .option _ spelling _ => spelling
  | _ => ""

/-- The option that is written in full before a `=`, with what follows. -/
def Grammar.assigned? (grammar : Grammar) (word : List Char) : Option WordClass :=
  match cutFirst '=' word with
  | some (name, value) =>
    (grammar.option? (String.ofList name)).map fun option =>
      .option option (String.ofList name) (some value)
  | none => none

/-- **What a word is** before any `--`. -/
def Grammar.classify (grammar : Grammar) (word : String) : Except UsageFault WordClass :=
  let s := word.toList
  if s.head? != some '-' then .ok .argument
  else match grammar.option? word with
    | some option => .ok (.option option word none)
    | none =>
      if s.length = 1 then .ok .argument
      else match grammar.assigned? s with
        | some cls => .ok cls
        | none =>
          match grammar.candidates s with
          | [cls] => .ok cls
          | [] =>
            if isNegativeNumber s || s.contains ' ' then .ok .argument else .ok .unknown
          | several => .error (.ambiguous word (several.map WordClass.spelling))

/-- **What each word is.** -/
def Grammar.classifyAll (grammar : Grammar) : List String → Except UsageFault (List Word)
  | [] => .ok []
  | word :: rest =>
    if word = "--" then .ok (⟨word, .separator⟩ :: rest.map fun w => ⟨w, .argument⟩)
    else do
      let cls ← grammar.classify word
      let words ← grammar.classifyAll rest
      return ⟨word, cls⟩ :: words

/-! ## Taking options -/

/-- **Why reading ends early.** -/
inductive Stop where
  /-- the command line is faulty -/
  | fault (fault : UsageFault)
  /-- the help text is asked for -/
  | help
  /-- the version is asked for -/
  | version
deriving DecidableEq, Repr

/-- **What has been read.** -/
structure Parsed where
  /-- the options without a value -/
  switches : List OptionName := []
  /-- the options with a value, in order -/
  values : List (OptionName × Datum) := []
  /-- the positional word, or the subcommand and what follows it -/
  positional : Option (List String) := none
  /-- the words without a meaning -/
  extras : List String := []

/-- **Options written together**: those without a value, and the last one with the value that is
written with it.  Only a short option may be followed by others. -/
def Grammar.cluster (grammar : Grammar) (option : OptionName) (short : Bool) :
    Option (List Char) → Except UsageFault (List OptionName × OptionName × Option String)
  | none => .ok ([], option, none)
  | some value => go option value
where
  /-- The options behind a first one that is followed by more characters. -/
  go (option : OptionName) : List Char →
      Except UsageFault (List OptionName × OptionName × Option String)
    | [] =>
      if option.takesValue then .ok ([], option, some "") else .error (.valueIgnored option "")
    | c :: rest =>
      if option.takesValue then .ok ([], option, some (String.ofList (c :: rest)))
      else
        let ignored := UsageFault.valueIgnored option (String.ofList (c :: rest))
        if !short then .error ignored
        else match grammar.option? (String.ofList ['-', c]) with
          | none => .error ignored
          | some next =>
            if rest.isEmpty then .ok ([option], next, none)
            else (go next rest).map fun others => (option :: others.1, others.2)

/-- Takes options without a value; some end the reading. -/
def Parsed.takeSwitches (parsed : Parsed) : List OptionName → Except Stop Parsed
  | [] => .ok parsed
  | .help :: _ => .error .help
  | .version :: _ => .error .version
  | option :: rest => takeSwitches { parsed with switches := parsed.switches ++ [option] } rest

/-- The value of an option.  A priority is a whole number.  A lone `--` stands for no value. -/
def optionValue (option : OptionName) (text : String) : Except UsageFault Datum :=
  if text = "--" then .ok (.list [])
  else match option with
    | .priority =>
      match Number.readInteger text.toList with
      | .ok i => .ok (.whole i)
      | .error _ => .error (.notWhole option text)
    | _ => .ok (.text text)

/-- Takes an option with its value. -/
def Parsed.takeValue (parsed : Parsed) (option : OptionName) (text : String) :
    Except Stop Parsed :=
  match optionValue option text with
  | .ok d => .ok { parsed with values := parsed.values ++ [(option, d)] }
  | .error fault => .error (.fault fault)

/-- A word without a meaning. -/
def Parsed.takeExtra (parsed : Parsed) (text : String) : Parsed :=
  { parsed with extras := parsed.extras ++ [text] }

/-! ## The second pass -/

/-- Whether a word is short for, or spelled as, a short option. -/
def isShort (spelling : String) : Bool := spelling.toList[1]? != some '-'

/-- Takes a word that is an option.  The flag in the answer says that the next word was its
value. -/
def Grammar.takeOption (grammar : Grammar) (parsed : Parsed) (option : OptionName)
    (spelling : String) (value : Option (List Char)) (next : Option Word) :
    Except Stop (Parsed × Bool) :=
  match grammar.cluster option (isShort spelling) value with
  | .error fault => .error (.fault fault)
  | .ok (switches, last, written) =>
    if !last.takesValue then (parsed.takeSwitches (switches ++ [last])).map fun p => (p, false)
    else match written, next with
      | some text, _ => do
        let parsed ← parsed.takeSwitches switches
        return (← parsed.takeValue last text, false)
      | none, some ⟨text, .argument⟩ => do
        let parsed ← parsed.takeSwitches switches
        return (← parsed.takeValue last text, true)
      | none, _ => .error (.fault (.valueExpected last))

/-- A separator directly behind the positional word belongs to it. -/
def dropSeparator : List Word → List Word
  | ⟨_, .separator⟩ :: rest => rest
  | words => words

theorem length_dropSeparator_le (words : List Word) :
    (dropSeparator words).length ≤ words.length := by
  unfold dropSeparator
  split <;> simp

/-- Takes words in order, with the positional word that is still expected. -/
def Grammar.takeWords (grammar : Grammar) (expected : Option Positional) (parsed : Parsed)
    (words : List Word) : Except Stop Parsed :=
  match words with
  | [] => .ok parsed
  | ⟨text, .unknown⟩ :: rest => grammar.takeWords expected (parsed.takeExtra text) rest
  | ⟨_, .option option spelling value⟩ :: rest =>
    match grammar.takeOption parsed option spelling value rest.head? with
    | .error stop => .error stop
    | .ok (parsed, false) => grammar.takeWords expected parsed rest
    | .ok (parsed, true) => grammar.takeWords expected parsed rest.tail
  | ⟨text, .argument⟩ :: rest =>
    match expected with
    | none => grammar.takeWords none (parsed.takeExtra text) rest
    | some .subcommand => .ok { parsed with positional := some (text :: rest.map Word.text) }
    | some (.single _) =>
      grammar.takeWords none { parsed with positional := some [text] } (dropSeparator rest)
  | ⟨text, .separator⟩ :: ⟨word, .argument⟩ :: rest =>
    match expected with
    | none => grammar.takeWords none (parsed.takeExtra text) (⟨word, .argument⟩ :: rest)
    | some .subcommand =>
      .ok { parsed with positional := some (text :: word :: rest.map Word.text) }
    | some (.single _) => grammar.takeWords none { parsed with positional := some [word] } rest
  | ⟨text, .separator⟩ :: rest => grammar.takeWords expected (parsed.takeExtra text) rest
termination_by words.length
decreasing_by
  all_goals simp only [List.length_cons, List.length_tail]
  all_goals try have := length_dropSeparator_le rest
  all_goals omega

/-- **Reading arguments.**  A positional word that is expected has to be there, a subcommand does
not. -/
def Grammar.parse (grammar : Grammar) (arguments : List String) : Except Stop Parsed :=
  match grammar.classifyAll arguments with
  | .error fault => .error (.fault fault)
  | .ok words =>
    match grammar.takeWords grammar.positional {} words with
    | .error stop => .error stop
    | .ok parsed =>
      match grammar.positional, parsed.positional with
      | some (.single name), none => .error (.fault (.missing name))
      | _, _ => .ok parsed

end ContainerClients.CommandLine
