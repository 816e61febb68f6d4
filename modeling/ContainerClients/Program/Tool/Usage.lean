import ContainerClients.Program.Tool

/-!
# How tools are used

A tool is used with options and operands.  An option is a letter behind a dash or a name behind two
of them, and may have an argument; a name may be cut short as long as it is clear.  Options may
stand behind operands, except where a tool wants them in front.

* `OptionRule` — an option that there is.
* `Usage` — the options and operands of a call.
* `readUsage` — reading them.
* `Call.byUsage` — a tool that reads its usage, and complains if it is wrong.
* `readSize` — a number with a letter that multiplies it.
-/

namespace ContainerClients.Program

/-- Whether an option has an argument. -/
inductive Argument where
  /-- it has none -/
  | none
  /-- it has one -/
  | needed
  /-- it may have one, written together with it -/
  | possible
deriving DecidableEq, Repr

/-- **An option that there is.** -/
structure OptionRule where
  /-- its letter; one below the blank where it has a name only -/
  letter : Char
  /-- its name, if it has one -/
  name : String
  /-- whether it has an argument -/
  argument : Argument

namespace OptionRule

/-- An option without an argument. -/
def flag (letter : Char) (name : String) : OptionRule := ⟨letter, name, .none⟩

/-- An option with an argument. -/
def valued (letter : Char) (name : String) : OptionRule := ⟨letter, name, .needed⟩

end OptionRule

/-- **The options and operands of a call.** -/
structure Usage where
  /-- the options in their order, by their letters, each with its argument -/
  options : List (Char × Octets)
  /-- the operands -/
  operands : List Octets

namespace Usage

/-- There is an option. -/
def has (usage : Usage) (letter : Char) : Bool := usage.options.any (·.1 == letter)

/-- The last argument of an option. -/
def value? (usage : Usage) (letter : Char) : Option Octets :=
  (usage.options.reverse.find? (·.1 == letter)).map (·.2)

/-- The last of some options that there is. -/
def last? (usage : Usage) (letters : List Char) : Option Char :=
  (usage.options.reverse.find? fun option => letters.contains option.1).map (·.1)

/-- One more option in front. -/
def withOption (usage : Usage) (letter : Char) (value : Octets) : Usage :=
  { usage with options := (letter, value) :: usage.options }

/-- One more operand in front. -/
def withOperand (usage : Usage) (operand : Octets) : Usage :=
  { usage with operands := operand :: usage.operands }

end Usage

/-- The letters of a word behind its dash, with the words behind it: the options, and the words
that are left; or what is wrong. -/
def readLetters (rules : List OptionRule) : Octets → List Octets →
    Except Octets (List (Char × Octets) × List Octets)
  | [], words => .ok ([], words)
  | letter :: more, words =>
    match rules.find? (·.letter == letter) with
    | none => .error ("invalid option -- '".toList ++ [letter, '\''])
    | some rule =>
      match rule.argument with
      | .none =>
        (readLetters rules more words).map fun (options, words) =>
          ((letter, []) :: options, words)
      | .possible => .ok ([(letter, more)], words)
      | .needed =>
        if !more.isEmpty then .ok ([(letter, more)], words)
        else match words with
          | value :: words => .ok ([(letter, value)], words)
          | [] => .error ("option requires an argument -- '".toList ++ [letter, '\''])

/-- The option of a name, which may be cut short. -/
def namedOption (rules : List OptionRule) (name : Octets) : Except Octets OptionRule :=
  match rules.find? fun rule => rule.name.toList == name with
  | some rule => .ok rule
  | none =>
    match rules.filter fun rule => name.isPrefixOf rule.name.toList with
    | [rule] => .ok rule
    | [] => .error ("unrecognized option '--".toList ++ name ++ ['\''])
    | several =>
      if several.all fun rule => some rule.letter == (several.head?).map (·.letter) then
        match several with
        | rule :: _ => .ok rule
        | [] => .error []
      else .error ("option '--".toList ++ name ++ "' is ambiguous; possibilities:".toList ++
        several.flatMap fun rule => " '--".toList ++ rule.name.toList ++ ['\''])

/-- The option behind two dashes, with the words behind it. -/
def readName (rules : List OptionRule) (word : Octets) (words : List Octets) :
    Except Octets ((Char × Octets) × List Octets) :=
  let (name, value) := match Text.cutFirst '=' word with
    | some (name, value) => (name, some value)
    | none => (word, none)
  match namedOption rules name with
  | .error message => .error message
  | .ok rule =>
    match rule.argument, value, words with
    | .none, some _, _ =>
      .error ("option '--".toList ++ rule.name.toList ++ "' doesn't allow an argument".toList)
    | .needed, none, value :: words => .ok ((rule.letter, value), words)
    | .needed, none, [] =>
      .error ("option '--".toList ++ rule.name.toList ++ "' requires an argument".toList)
    | _, value, words => .ok ((rule.letter, value.getD []), words)

/-- The options and operands of words; the number bounds how many there are. -/
def readUsageWith (rules : List OptionRule) (inFront : Bool) :
    Nat → List Octets → Except Octets Usage
  | 0, _ => .ok ⟨[], []⟩
  | _, [] => .ok ⟨[], []⟩
  | fuel + 1, word :: words =>
    match word with
    | ['-', '-'] => .ok ⟨[], words⟩
    | '-' :: '-' :: name =>
      match readName rules name words with
      | .error message => .error message
      | .ok ((letter, value), words) =>
        (readUsageWith rules inFront fuel words).map (·.withOption letter value)
    | '-' :: c :: more =>
      match readLetters rules (c :: more) words with
      | .error message => .error message
      | .ok (options, words) =>
        (readUsageWith rules inFront fuel words).map fun usage =>
          { usage with options := options ++ usage.options }
    | _ =>
      if inFront then .ok ⟨[], word :: words⟩
      else (readUsageWith rules inFront fuel words).map (·.withOperand word)

/-- **The options and operands of words**; or what is wrong.  `inFront` where operands end the
options. -/
def readUsage (rules : List OptionRule) (inFront : Bool) (words : List Octets) :
    Except Octets Usage :=
  readUsageWith rules inFront (words.length + 1) words

namespace Call

/-- Points to the help of a tool. -/
def hint (call : Call) : Octets :=
  "Try '".toList ++ call.name ++ " --help' for more information.\n".toList

/-- A tool that is used in a wrong way. -/
def misused (call : Call) (message : Octets) (exit : Nat) : Effect :=
  ⟨[(.errors, call.name ++ ": ".toList ++ message ++ ['\n'] ++ call.hint)], call.input, exit,
    call.files⟩

/-- A tool that fails with a message. -/
def failing (call : Call) (message : Octets) (exit : Nat) : Effect :=
  ⟨[(.errors, call.name ++ ": ".toList ++ message ++ ['\n'])], call.input, exit, call.files⟩

/-- **A tool that reads its usage.** -/
def byUsage (call : Call) (rules : List OptionRule) (inFront : Bool) (wrong : Nat)
    (work : Usage → Effect) : Effect :=
  match readUsage rules inFront call.args with
  | .error message => call.misused message wrong
  | .ok usage => work usage

end Call

/-- A text between the quotation marks of messages. -/
def inMarks (s : Octets) : Octets := Octets.ofText "‘" ++ s ++ Octets.ofText "’"

/-- The letters that multiply a number. -/
def sizeLetters : List (Char × Nat) :=
  [('K', 1), ('k', 1), ('M', 2), ('G', 3), ('T', 4), ('P', 5), ('E', 6)]

/-- **A number with a letter that multiplies it**: a power of 1024, or of 1000 before a `B`. -/
def readSize (s : Octets) : Option Nat :=
  let digits := s.takeWhile Char.isDigit
  match Octets.natural? digits, s.drop digits.length with
  | some n, [] => some n
  | some n, ['b'] => some (512 * n)
  | some n, letter :: more =>
    match sizeLetters.lookup letter, more with
    | some k, [] | some k, ['i', 'B'] => some (n * Nat.pow 1024 k)
    | some k, ['B'] => some (n * Nat.pow 1000 k)
    | _, _ => none
  | none, _ => none

end ContainerClients.Program
