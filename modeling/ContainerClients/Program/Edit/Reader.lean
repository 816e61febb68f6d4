import ContainerClients.Program.Edit
import ContainerClients.Program.Escapes

/-!
# Reading scripts of the line editor

* `EditSource`, `EditReading` — reading a script character by character.
* `delimited` — a text up to a mark, as the parts of a substitution are written.
* `convertEscapes` — characters that are written by their names or numbers.
* `readReplacement`, `readSelection`, `readAction` — the parts of a command.
* `readEditScript` — **the script that texts denote**, or what is wrong with it, and where.
-/

namespace ContainerClients.Program

/-- What is left of a script, and how many characters are in front of it. -/
structure EditSource where
  /-- what is left -/
  rest : List Char
  /-- how many characters are read -/
  position : Nat
  /-- the text of a command goes on behind the end -/
  unfinished : Bool

/-- **Reading a script.** -/
abbrev EditReading := StateT EditSource (Except (EditFault × Nat))

namespace EditReading

/-- A script that is wrong. -/
def fail {α : Type} (fault : EditFault) : EditReading α := do
  throw (fault, (← get).position)

/-- The next character, which is left. -/
def peek? : EditReading (Option Char) := return (← get).rest.head?

/-- What is left from a place on. -/
def moveTo (rest : List Char) : EditReading PUnit :=
  modify fun source => { source with
    rest, position := source.position + (source.rest.length - rest.length) }

/-- The next character. -/
def next? : EditReading (Option Char) := do
  let source ← get
  match source.rest with
  | [] => return none
  | c :: rest =>
    set { source with rest, position := source.position + 1 }
    return some c

/-- The characters in front of the first that is not of a kind. -/
def takeAll (kind : Char → Bool) : EditReading (List Char) := do
  let source ← get
  let taken := source.rest.takeWhile kind
  moveTo (source.rest.drop taken.length)
  return taken

/-- Leaves out blanks. -/
def skipBlanks : EditReading PUnit := discard (takeAll fun c => c == ' ' || c == '\t')

/-- The number that is written next, if there is one. -/
def number? : EditReading (Option Nat) := return Octets.natural? (← takeAll Char.isDigit)

end EditReading

open EditReading

/-! ## Texts between marks -/

/-- Where a text between marks is read: inside a set of characters or not. -/
inductive Delimited where
  /-- outside sets -/
  | outside
  /-- at the first character of a set -/
  | atSet (afterMark : Bool)
  /-- inside a set -/
  | inSet
  /-- inside a class that is named between marks -/
  | inClass (mark : Char)

/-- **A text up to a mark**, and what follows it; nothing where there is no mark. -/
def delimited (slash : Char) (regex : Bool) : Delimited → List Char →
    Option (List Char × List Char)
  | _, [] => none
  | .outside, c :: rest =>
    if c == slash then some ([], rest)
    else if c == '\n' then none
    else if c == '\\' then
      match rest with
      | [] => none
      | d :: rest =>
        let front : List Char :=
          if d == slash then (if !regex && d == '&' then [c, d] else [d])
          else if d == '\n' then [d]
          else if d == 'n' && regex then ['\n']
          else [c, d]
        (delimited slash regex .outside rest).map fun (s, rest) => (front ++ s, rest)
    else
      let mode := if c == '[' && regex then .atSet false else .outside
      (delimited slash regex mode rest).map fun (s, rest) => (c :: s, rest)
  | _, '\\' :: 'n' :: rest =>
    (delimited slash regex .inSet rest).map fun (s, rest) => ('\n' :: s, rest)
  | mode, c :: rest =>
    if c == '\n' then none
    else
      let mode : Delimited := match mode with
        | .atSet afterMark =>
          if c == '^' && !afterMark then .atSet true
          else if c == ']' then .inSet
          else memberMode c rest
        | .inClass mark =>
          if mark == ']' then .inSet
          else if c == mark && rest.head? == some ']' then .inClass ']'
          else .inClass mark
        | _ => if c == ']' then .outside else memberMode c rest
      (delimited slash regex mode rest).map fun (s, rest) => (c :: s, rest)
where
  /-- Where reading goes on behind a member of a set. -/
  memberMode (c : Char) (rest : List Char) : Delimited :=
    match c, rest.head? with
    | '[', some ':' => .inClass ':'
    | '[', some '.' => .inClass '.'
    | '[', some '=' => .inClass '='
    | _, _ => .inSet

/-- A text up to a mark. -/
def readDelimited (slash : Char) (regex : Bool) (fault : EditFault) : EditReading (List Char) := do
  match delimited slash regex .outside (← get).rest with
  | some (s, rest) =>
    moveTo rest
    return s
  | none =>
    moveTo ((← get).rest.dropWhile (· != '\n'))
    fail fault

/-- The character of a number behind a backslash and the letter that tells its base, and what
follows it. -/
def numberedChar (letter : Char) (rest : List Char) : Option (Char × List Char) :=
  let read (base count : Nat) : Option (Char × List Char) :=
    let (n, behind) := takeDigits base count 0 rest
    if behind.length = rest.length then none else some (Char.ofNat (n % 256), behind)
  match letter with
  | 'd' => read 10 3
  | 'o' => read 8 3
  | 'x' => read 16 2
  | 'c' => match rest with
    | c :: rest => some (Char.ofNat (c.toUpper.toNat ^^^ 64), rest)
    | [] => none
  | _ => none

/-- **A text with the characters that are written by names or numbers.**  Those in `guarded` keep a
backslash, so that they stand for themselves. -/
def convertEscapes (guarded : List Char) : Nat → List Char → List Char
  | 0, s => s
  | _, [] => []
  | fuel + 1, '\\' :: c :: rest =>
    match [('a', 7), ('f', 12), ('r', 13), ('t', 9), ('v', 11)].lookup c with
    | some n => Char.ofNat n :: convertEscapes guarded fuel rest
    | none =>
      match numberedChar c rest with
      | some (d, rest) =>
        (if guarded.contains d then ['\\', d] else [d]) ++ convertEscapes guarded fuel rest
      | none => '\\' :: c :: convertEscapes guarded fuel rest
  | fuel + 1, c :: rest => c :: convertEscapes guarded fuel rest

/-- The regular expression of a text; none of the empty text. -/
def regexOf (extended : Bool) (s : List Char) : EditReading (Option Regex) := do
  if s.isEmpty then return none
  match readRegex ⟨extended, true, false⟩ (convertEscapes [] (s.length + 1) s) with
  | .ok regex => return some regex
  | .error fault => fail (.regex fault)

/-! ## Substitutions -/

/-- **The parts of a replacement.** -/
def readReplacement : List Char → List ReplacementPart
  | [] => []
  | '\\' :: c :: rest =>
    let part : ReplacementPart :=
      if c.isDigit then .group (c.toNat - 48)
      else match c with
        | 'L' => .casing .lower
        | 'U' => .casing .upper
        | 'l' => .casing .nextLower
        | 'u' => .casing .nextUpper
        | 'E' => .casing .plain
        | 'n' => .text ['\n']
        | c => .text [c]
    part :: readReplacement rest
  | '&' :: rest => .group 0 :: readReplacement rest
  | c :: rest => .text [c] :: readReplacement rest

/-- The last group that a replacement refers to. -/
def lastGroup (parts : List ReplacementPart) : Nat :=
  parts.foldl (fun last part => match part with
    | .group number => max last number
    | _ => last) 0

/-- The name of a file, up to the end of the line. -/
def readFileName : EditReading (List Char) := do
  skipBlanks
  let name ← takeAll (· != '\n')
  if name.isEmpty then fail .missingFile
  return name

/-- The end of a command. -/
def readEnd : EditReading PUnit := do
  discard (takeAll fun c => c == ' ' || c == '\t' || c == '\r')
  match ← peek? with
  | none | some '\x7d' | some '#' => return
  | some '\n' | some ';' => discard next?
  | some _ =>
    discard next?
    fail .extra

/-- The options of a substitution; the number bounds how many there are. -/
def readOptions (numbered : Bool) : Nat → Substitution → EditReading Substitution
  | 0, substitution => return substitution
  | fuel + 1, substitution => do
    match ← peek? with
    | none | some '\x7d' | some '#' => return substitution
    | some c =>
      discard next?
      if c == '\n' || c == ';' then return substitution
      else if c == ' ' || c == '\t' || c == '\r' || c == 'e' then
        readOptions numbered fuel substitution
      else if c == 'i' || c == 'I' then
        readOptions numbered fuel { substitution with
          rules := { substitution.rules with ignoreCase := true } }
      else if c == 'm' || c == 'M' then
        readOptions numbered fuel { substitution with
          rules := { substitution.rules with manyLines := true } }
      else if c == 'g' then
        if substitution.all then fail (.doubled (letterInMarks "g"))
        readOptions numbered fuel { substitution with all := true }
      else if c == 'p' then
        if substitution.print then fail (.doubled (letterInMarks "p"))
        readOptions numbered fuel { substitution with print := true }
      else if c == 'w' then
        return { substitution with file := some (← readFileName) }
      else if c.isDigit then
        if numbered then fail (.doubled "number")
        let digits ← takeAll Char.isDigit
        let which := (Octets.natural? (c :: digits)).getD 1
        if which = 0 then fail .occurrenceZero
        readOptions true fuel { substitution with which }
      else fail .substitutionOption

/-- A substitution. -/
def readSubstitution (extended : Bool) : EditReading EditAction := do
  match ← next? with
  | none => fail .openSubstitution
  | some slash =>
    let regexText ← readDelimited slash true .openSubstitution
    let replacementText ← readDelimited slash false .openSubstitution
    let replacement := readReplacement (convertEscapes ['&', '\\', '\n']
      (replacementText.length + 1) replacementText)
    let substitution : Substitution := ⟨none, ⟨false, false⟩, replacement, 1, false, false, none⟩
    let substitution ← readOptions false ((← get).rest.length + 1) substitution
    let regex ← regexOf extended regexText
    if let some regex := regex then
      if regex.groupCount < lastGroup replacement then
        fail (.reference (lastGroup replacement))
    return .substitute { substitution with regex }

/-- The characters of one side of an exchange. -/
def exchangeSide : List Char → List Char
  | '\\' :: c :: rest =>
    if c == 'n' then '\n' :: exchangeSide rest
    else if c == '\\' then c :: exchangeSide rest
    else '\\' :: c :: exchangeSide rest
  | c :: rest => c :: exchangeSide rest
  | [] => []

/-- An exchange of characters. -/
def readExchange : EditReading EditAction := do
  match ← next? with
  | none => fail .openExchange
  | some slash =>
    let side : EditReading (List Char) := do
      let s ← readDelimited slash false .openExchange
      return exchangeSide (convertEscapes ['\\'] (s.length + 1) s)
    let first ← side
    let second ← side
    if first.length ≠ second.length then fail .exchangeLengths
    readEnd
    return .exchange (first.zip second)

/-! ## Addresses -/

/-- What may follow the regular expression of an address; the number bounds its length. -/
def readAddressOptions : Nat → RegexRules → EditReading RegexRules
  | 0, rules => return rules
  | fuel + 1, rules => do
    match ← peek? with
    | some 'I' =>
      discard next?
      readAddressOptions fuel { rules with ignoreCase := true }
    | some 'M' =>
      discard next?
      readAddressOptions fuel { rules with manyLines := true }
    | _ => return rules

/-- An address, if there is one. -/
def readAddress? (extended : Bool) : EditReading (Option EditAddress) := do
  match ← peek? with
  | none => return none
  | some c =>
    if c == '/' || c == '\\' then
      discard next?
      let slash ← if c == '/' then pure '/' else do
        match ← next? with
        | some slash => pure slash
        | none => fail .openAddress
      let regex ← regexOf extended (← readDelimited slash true .openAddress)
      return some (.regex regex (← readAddressOptions ((← get).rest.length) ⟨false, false⟩))
    else if c.isDigit then
      let first := (← number?).getD 0
      if (← peek?) == some '~' then
        discard next?
        let step := (← number?).getD 0
        return some (if step = 0 then .line first else .every first step)
      else return some (.line first)
    else if c == '$' then
      discard next?
      return some .lastLine
    else if c == '+' || c == '~' then
      discard next?
      let count := (← number?).getD 0
      return some (if c == '+' then .behind count else .multiple count)
    else return none

/-- **The lines that a command is for.** -/
def readSelection (extended : Bool) : EditReading EditSelection := do
  match ← readAddress? extended with
  | none =>
    if (← peek?) == some ',' then
      discard next?
      fail .comma
    return .all
  | some first =>
    match first with
    | .behind _ | .multiple _ => fail .behindNothing
    | _ => pure ()
    skipBlanks
    if (← peek?) == some ',' then
      discard next?
      skipBlanks
      match ← readAddress? extended with
      | none =>
        discard next?
        fail .comma
      | some last =>
        match first, last with
        | .line 0, .regex .. => return .between first last
        | .line 0, _ =>
          skipBlanks
          discard next?
          fail .lineZero
        | _, _ => return .between first last
    else
      if first = .line 0 then
        discard next?
        fail .lineZero
      return .at first

/-! ## Commands -/

/-- The name of a label. -/
def readLabel : EditReading (List Char) := do
  skipBlanks
  takeAll fun c => !(c == ' ' || ('\t' ≤ c && c ≤ '\r') || c == ';' || c == '\x7d')

/-- The lines of a text up to the first that does not end with a backslash, and what follows it. -/
def textLines : List Char → List Char × List Char
  | [] => ([], [])
  | '\\' :: c :: rest =>
    let (s, rest) := textLines rest
    ('\\' :: c :: s, rest)
  | c :: rest =>
    if c == '\n' then ([], rest)
    else
      let (s, rest) := textLines rest
      (c :: s, rest)

/-- A text without the backslashes in front of its characters. -/
def withoutBackslashes : List Char → List Char
  | '\\' :: c :: rest => c :: withoutBackslashes rest
  | '\\' :: [] => []
  | c :: rest => c :: withoutBackslashes rest
  | [] => []

/-- The text of a command that writes one. -/
def readText : EditReading (List Char) := do
  skipBlanks
  match (← get).rest with
  | [] => fail .missingText
  | ['\\'] =>
    set (EditSource.mk [] ((← get).position + 1) true)
    return []
  | '\\' :: rest =>
    let blanks := rest.takeWhile fun c => c == ' ' || c == '\t'
    moveTo (match rest.drop blanks.length with
      | '\n' :: behind => behind
      | _ => rest)
  | _ => pure ()
  let (s, rest) := textLines (← get).rest
  moveTo rest
  if rest.isEmpty && s.getLast? == some '\\' then
    modify fun source => { source with unfinished := true }
  return withoutBackslashes (convertEscapes ['\\'] (s.length + 1) s) ++ ['\n']

/-- **What a command does**, by its letter. -/
def readAction (extended : Bool) (selection : EditSelection) (c : Char) :
    EditReading EditAction := do
  let ended (action : EditAction) : EditReading EditAction := do
    readEnd
    return action
  let single : EditReading PUnit := do
    match selection with
    | .between .. => fail .oneAddress
    | _ => pure ()
  match c with
  | '\x7b' => return .opening
  | '\x7d' =>
    if selection ≠ .all then fail .closing
    ended .closing
  | ':' =>
    if selection ≠ .all then fail .labelAddress
    let name ← readLabel
    if name.isEmpty then fail .missingLabel
    return .label name
  | '#' =>
    if selection ≠ .all then fail .commentAddress
    discard (takeAll (· != '\n'))
    return .nothing
  | 'b' => return .goto (← readLabel)
  | 't' => return .gotoIf (← readLabel)
  | 'T' => return .gotoUnless (← readLabel)
  | 's' => readSubstitution extended
  | 'y' => readExchange
  | 'd' => ended .delete
  | 'D' => ended .deleteFirst
  | 'p' => ended .print
  | 'P' => ended .printFirst
  | 'n' => ended .next
  | 'N' => ended .appendNext
  | 'g' => ended (.fromStore false)
  | 'G' => ended (.fromStore true)
  | 'h' => ended (.toStore false)
  | 'H' => ended (.toStore true)
  | 'x' => ended .swapStore
  | 'a' => return .append (← readText)
  | 'i' => return .insert (← readText)
  | 'c' => return .change (← readText)
  | 'q' | 'Q' =>
    single
    skipBlanks
    let status := (← number?).getD 0
    ended (.quit (status % 256) (c == 'q'))
  | '=' => ended .number
  | 'r' => return .readFile (← readFileName)
  | 'R' => return .readFileLine (← readFileName)
  | 'w' => return .writeFile (← readFileName)
  | 'W' => return .writeFirst (← readFileName)
  | 'l' =>
    skipBlanks
    let width ← number?
    ended (.list width)
  | 'F' => ended .fileName
  | 'z' => ended .clear
  | c => fail (.unknownCommand c)

/-- The commands of a text with so many blocks open, and how many are open behind it; the first
number bounds their count. -/
def readCommands (extended : Bool) : Nat → Nat → EditReading (EditScript × Nat)
  | 0, blocks => return ([], blocks)
  | fuel + 1, blocks => do
    discard (takeAll fun c => c == ' ' || ('\t' ≤ c && c ≤ '\r') || c == ';')
    if (← peek?).isNone then return ([], blocks)
    let selection ← readSelection extended
    skipBlanks
    let inverted := (← peek?) == some '!'
    if inverted then
      discard next?
      skipBlanks
      if (← peek?) == some '!' then
        discard next?
        fail .inversions
    match ← next? with
    | none => fail .missingCommand
    | some c =>
      if c == ',' then fail .comma
      if c == '\x7d' && blocks = 0 then fail .closing
      let action ← readAction extended selection c
      let blocks := if c == '\x7b' then blocks + 1 else if c == '\x7d' then blocks - 1 else blocks
      let (others, blocks) ← readCommands extended fuel blocks
      return (⟨selection, inverted, action⟩ :: others, blocks)

/-- The labels of a script. -/
def EditScript.labels (script : EditScript) : List (List Char) :=
  script.filterMap fun command => match command.action with
    | .label name => some name
    | _ => none

/-- The label that a command goes to, if it does. -/
def EditAction.target? : EditAction → Option (List Char)
  | .goto name | .gotoIf name | .gotoUnless name => some name
  | _ => none

/-- The commands of texts one behind the other, with their number, so many blocks open, and a text
in front that goes on in the first of them. -/
def readTexts (extended : Bool) : Nat → Nat → Option (List Char) → List (List Char) →
    Except (EditFault × Nat × Nat) EditScript
  | _, blocks, _, [] => if blocks = 0 then .ok [] else .error (.opening, 1, 0)
  | number, blocks, front, text :: rest => do
    let text := match front with
      | some front => front ++ '\n' :: text
      | none => text
    match (readCommands extended (text.length + 1) blocks).run ⟨text, 0, false⟩ with
    | .error (fault, position) => throw (fault, number, position)
    | .ok ((script, deeper), source) =>
      if source.unfinished && !rest.isEmpty then
        readTexts extended (number + 1) blocks (some text) rest
      else return script ++ (← readTexts extended (number + 1) deeper none rest)

/-- **The script that texts denote**, or what is wrong with it, in which of them and where. -/
def readEditScript (extended : Bool) (texts : List (List Char)) :
    Except (EditFault × Nat × Nat) EditScript := do
  let script ← readTexts extended 1 0 none texts
  let targets := (script.filterMap (·.action.target?)).filter (!·.isEmpty)
  match targets.find? fun name => !script.labels.contains name with
  | some name => throw (.noLabel name, 1, 0)
  | none => return script

end ContainerClients.Program
