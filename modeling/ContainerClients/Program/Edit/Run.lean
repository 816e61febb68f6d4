import ContainerClients.Program.Edit.Reader
import ContainerClients.Program.Files

/-!
# The line editor at work

* `EditRules`, `EditLine`, `EditState` — how the editor works, and where it stands.
* `Substitution.apply` — a substitution in a line.
* `EditState.selects` — whether a command is for the line.
* `CycleEnd`, `EditScript.runCommands` — the commands that a line goes through.
* `EditScript.runLines` — **all lines of a text**.
-/

namespace ContainerClients.Program

/-- **How the editor works.** -/
structure EditRules where
  /-- lines are written only where a command says so -/
  quiet : Bool
  /-- each file has a last line of its own -/
  separate : Bool
  /-- what ends lines -/
  lineEnd : Char
  /-- how wide lines are that are written so that all can be seen -/
  width : Nat
  /-- the folder that names of files are seen from -/
  folder : Path

/-- A line that is to be read. -/
structure EditLine where
  /-- its text -/
  text : List Char
  /-- it has an end -/
  ended : Bool
  /-- the name of its file -/
  file : Octets
  /-- it is the last one of its file -/
  last : Bool

/-- Whether the lines of a command have been met. -/
inductive EditRange where
  /-- the first has been met, the last one not yet; it may be one with a number -/
  | active (last : Option Nat)
  /-- both have been met -/
  | closed
deriving DecidableEq

/-- **Where the editor stands.** -/
structure EditState where
  /-- the line -/
  text : List Char
  /-- it has an end -/
  ended : Bool
  /-- the name of its file -/
  file : Octets
  /-- it is the last one of its file -/
  last : Bool
  /-- its number -/
  number : Nat
  /-- the store -/
  store : List Char
  /-- the lines that are left -/
  rest : List EditLine
  /-- what is to be written behind the line, the last first -/
  queue : List Octets
  /-- the state of the commands that are for lines from one to another, by their places -/
  ranges : List (Nat × EditRange)
  /-- something was replaced since the line was read -/
  replaced : Bool
  /-- the regular expression that was used last -/
  regex : Option (Regex × RegexRules)
  /-- the end of a line is still to be written -/
  owed : Bool
  /-- what is written, the last first -/
  writes : List (Octets)
  /-- what is written to the errors, the last first -/
  complaints : List Octets
  /-- the tree of files -/
  files : Files
  /-- the files that lines are taken from, each with what is left of it -/
  taken : List (List Char × List Octets)
  /-- how many characters are read of the input -/
  consumed : Nat
  /-- a regular expression was asked for where none was used before -/
  lost : Bool

namespace EditState

/-! ## Writing -/

/-- Writes a text, behind the end of the last line if that is still to be written. -/
def put (state : EditState) (rules : EditRules) (s : Octets) : EditState :=
  let front := if state.owed then [rules.lineEnd] else []
  { state with writes := (front ++ s) :: state.writes, owed := false }

/-- Writes a line; its end only if it has one. -/
def putLine (state : EditState) (rules : EditRules) (text : List Char) : EditState :=
  let bytes := Octets.ofCharacters text
  if state.ended then state.put rules (bytes ++ [rules.lineEnd])
  else { state.put rules bytes with owed := true }

/-- Writes what is to be written behind the line. -/
def flush (state : EditState) (rules : EditRules) : EditState :=
  state.queue.reverse.foldl (fun state s => state.put rules s) { state with queue := [] }

/-- Writes a line to a file. -/
def putFile (state : EditState) (rules : EditRules) (name text : List Char) : EditState :=
  let name := Octets.ofCharacters name
  let bytes := Octets.ofCharacters text
  if name == "/dev/stdout".toList then
    { state with
      writes := (if state.ended then bytes ++ [rules.lineEnd] else bytes) :: state.writes }
  else if name == "/dev/stderr".toList then
    { state with complaints := (bytes ++ [rules.lineEnd]) :: state.complaints }
  else
    let path := Path.resolve rules.folder name
    let before := (state.files.read path).toOption.getD []
    let line := if state.ended then bytes ++ [rules.lineEnd] else bytes
    match state.files.write path (before ++ line) with
    | .ok files => { state with files }
    | .error _ => state

/-! ## Reading -/

/-- Takes a line. -/
def take (state : EditState) (line : EditLine) (text : List Char) (rest : List EditLine) :
    EditState :=
  { state with
    text, ended := line.ended, file := line.file, last := line.last, rest
    number := state.number + 1, replaced := false
    consumed := state.consumed + (Octets.ofCharacters line.text).length +
      if line.ended then 1 else 0 }

/-- There is no line behind this one, as the rules see it. -/
def isLast (state : EditState) (rules : EditRules) : Bool :=
  state.rest.isEmpty || (rules.separate && state.last)

/-! ## Selecting -/

/-- Whether a regular expression occurs in the line; one that is missing is the one that was used
last. -/
def finds (state : EditState) (regex : Option Regex) (regexRules : RegexRules) :
    Bool × EditState :=
  match (regex.map (·, regexRules)).or state.regex with
  | some (regex, regexRules) =>
    (regex.occurs regexRules state.text, { state with regex := some (regex, regexRules) })
  | none => (false, { state with lost := true })

/-- Whether an address is the line's. -/
def isAt (state : EditState) (rules : EditRules) : EditAddress → Bool × EditState
  | .line n => (state.number = n, state)
  | .lastLine => (state.isLast rules, state)
  | .regex regex regexRules => state.finds regex regexRules
  | .every first step => (first ≤ state.number && (state.number - first) % step = 0, state)
  | .behind _ | .multiple _ => (false, state)

/-- The number of the last line of a range that starts at this line, if it has one. -/
def lastNumber? (state : EditState) : EditAddress → Option Nat
  | .line n => some n
  | .behind count => some (state.number + count)
  | .multiple count =>
    some (if count = 0 then state.number else (state.number + count - 1) / count * count)
  | _ => none

/-- Sets the state of a command's range. -/
def setRange (state : EditState) (place : Nat) (range : EditRange) : EditState :=
  { state with ranges := (place, range) :: state.ranges.filter (·.1 != place) }

/-- **Whether a command at a place is for the line.** -/
def selects (state : EditState) (rules : EditRules) (place : Nat) :
    EditSelection → Bool × EditState
  | .all => (true, state)
  | .at address => state.isAt rules address
  | .between first last =>
    let range := (state.ranges.lookup place).or
      (if first = .line 0 then some (.active none) else none)
    match range with
    | some (.active (some n)) =>
      let state := if n ≤ state.number then state.setRange place .closed else state
      if state.number ≤ n then (true, state) else state.isAt rules first
    | some (.active none) =>
      let (found, state) := state.isAt rules last
      (true, if found then state.setRange place .closed else state)
    | _ =>
      let (found, state) := state.isAt rules first
      if !found then (false, state)
      else match state.lastNumber? last with
        | some n =>
          (true, if n ≤ state.number then state.setRange place .closed
            else state.setRange place (.active (some n)))
        | none => (true, state.setRange place (.active none))

end EditState

/-! ## Replacing -/

/-- How letters are changed: the next one, and those behind it. -/
structure CasingState where
  /-- the next letter -/
  next : Casing
  /-- those behind it -/
  rest : Casing

namespace CasingState

/-- A text with its letters changed, and how the next ones are. -/
def change (casing : CasingState) (s : List Char) : List Char × CasingState :=
  let all := match casing.rest with
    | .upper => s.map capitalLetter
    | .lower => s.map smallLetter
    | _ => s
  match s, all with
  | c :: _, _ :: others =>
    match casing.next with
    | .nextUpper => (capitalLetter c :: others, { casing with next := .plain })
    | .nextLower => (smallLetter c :: others, { casing with next := .plain })
    | _ => (all, casing)
  | _, _ => (all, casing)

/-- How letters are changed behind a mark. -/
def mark (casing : CasingState) : Casing → CasingState
  | .nextUpper => { casing with next := .nextUpper }
  | .nextLower => { casing with next := .nextLower }
  | other => ⟨.plain, other⟩

end CasingState

/-- What takes the place of an occurrence. -/
def replacementText (occurrence : Regex.Occurrence) (parts : List ReplacementPart) : List Char :=
  (parts.foldl (fun (s, casing) part =>
    let add (text : List Char) : List Char × CasingState :=
      let (text, casing) := casing.change text
      (s ++ text, casing)
    match part with
    | .text text => add text
    | .group number => add (occurrence.group number)
    | .casing mark => (s, casing.mark mark)) (([] : List Char), CasingState.mk .plain .plain)).1

namespace Substitution

/-- What becomes of a line from a place on, and whether anything is replaced: where the last
occurrence ended, and how many there were.  The first number bounds how many follow. -/
def applyFrom (substitution : Substitution) (regex : Regex) (rules : RegexRules) :
    Nat → Place → Option Nat → Nat → List Char × Bool
  | 0, place, _, _ => (place.rest, false)
  | fuel + 1, place, lastEnd, count =>
    match regex.find? rules place with
    | none => (place.rest, false)
    | some occurrence =>
      let front := place.rest.take (occurrence.start.position - place.position)
      let next := occurrence.last
      let skipped := next.rest.take 1
      let goOn (lastEnd : Nat) (count : Nat) : List Char × Bool :=
        if occurrence.isEmpty then
          if next.rest.isEmpty then ([], false)
          else
            let (s, any) := applyFrom substitution regex rules fuel next.next (some lastEnd) count
            (skipped ++ s, any)
        else applyFrom substitution regex rules fuel next (some lastEnd) count
      if occurrence.isEmpty && lastEnd == some next.position then
        let (s, any) := goOn next.position count
        (front ++ s, any)
      else if count + 1 < substitution.which then
        let (s, any) := goOn next.position (count + 1)
        (front ++ occurrence.text ++ s, any)
      else
        let text := replacementText occurrence substitution.replacement
        let (s, _) := if substitution.all then goOn next.position (count + 1)
          else (next.rest, false)
        (front ++ text ++ s, true)

/-- **What becomes of a line**; nothing if nothing is replaced. -/
def result? (substitution : Substitution) (regex : Regex) (rules : RegexRules)
    (text : List Char) : Option (List Char) :=
  let (s, any) := substitution.applyFrom regex rules (text.length + 2) (.start text) none 0
  if any then some s else none

end Substitution

/-! ## Showing all of a line -/

/-- A byte so that it can be seen. -/
def visibleByte (c : Char) : Octets :=
  match [('\\', "\\\\"), ('\x07', "\\a"), ('\x08', "\\b"), ('\x0c', "\\f"), ('\n', "\\n"),
    ('\r', "\\r"), ('\t', "\\t"), ('\x0b', "\\v")].lookup c with
  | some s => s.toList
  | none =>
    let n := c.toNat
    if 32 ≤ n && n < 127 then [c]
    else '\\' :: [n / 64, n / 8 % 8, n % 8].map fun d => Char.ofNat (48 + d)

/-- Pieces in lines of a width, if there is one, each but the last ended by a backslash: the pieces
that are left, and how many characters the line has. -/
def wrapped (width : Option Nat) : List Octets → Nat → Octets
  | [], _ => []
  | piece :: rest, count =>
    if width.any (· < count + piece.length) then
      "\\\n".toList ++ piece ++ wrapped width rest piece.length
    else piece ++ wrapped width rest (count + piece.length)

/-- A line so that all of it can be seen. -/
def visibleLine (width : Nat) (text : List Char) : Octets :=
  let limit := if width = 0 then none else some (width - 1)
  wrapped limit ((Octets.ofCharacters text).map visibleByte) 0 ++ ['$', '\n']

/-! ## Going through commands -/

/-- How the way through the commands ends. -/
inductive CycleEnd where
  /-- the line is written -/
  | plain
  /-- the line is not written -/
  | discard
  /-- the line is not written, and goes through the commands again -/
  | again
  /-- the end, with an exit status; the line may be written -/
  | quit (status : Nat) (print : Bool)
  /-- no regular expression was used before -/
  | noRegex

namespace EditScript

/-- The place behind a block that starts in front of some commands. -/
def behindBlock : EditScript → Nat → Nat → Nat
  | [], _, place => place
  | command :: rest, depth, place =>
    match command.action with
    | .opening => behindBlock rest (depth + 1) (place + 1)
    | .closing => if depth = 0 then place + 1 else behindBlock rest (depth - 1) (place + 1)
    | _ => behindBlock rest depth (place + 1)

/-- The place of a label; the end where there is none. -/
def labelPlace (script : EditScript) (name : List Char) : Nat :=
  if name.isEmpty then script.length
  else script.findIdx fun command => command.action == .label name

end EditScript

/-- The first line of a text. -/
def firstOf (text : List Char) : List Char := text.takeWhile (· != '\n')

/-- What a command does that leaves the way through the commands as it is. -/
def EditAction.perform (rules : EditRules) (state : EditState) : EditAction → EditState
  | .exchange pairs => { state with
      text := state.text.map fun c => (pairs.lookup c).getD c }
  | .print => state.putLine rules state.text
  | .printFirst => state.put rules (Octets.ofCharacters (firstOf state.text) ++ [rules.lineEnd])
  | .fromStore adds => { state with
      text := if adds then state.text ++ rules.lineEnd :: state.store else state.store }
  | .toStore adds => { state with
      store := if adds then state.store ++ rules.lineEnd :: state.text else state.text }
  | .swapStore => { state with text := state.store, store := state.text }
  | .append s => { state with queue := Octets.ofCharacters s :: state.queue }
  | .insert s => state.put rules (Octets.ofCharacters s)
  | .number => state.put rules (Octets.ofNat state.number ++ ['\n'])
  | .readFile name =>
    match state.files.read (Path.resolve rules.folder (Octets.ofCharacters name)) with
    | .ok content => { state with queue := content :: state.queue }
    | .error _ => state
  | .readFileLine name =>
    let left := match state.taken.lookup name with
      | some lines => lines
      | none =>
        let text := state.files.read (Path.resolve rules.folder (Octets.ofCharacters name))
        (text.toOption.map Octets.lines).getD []
    let state := { state with
      taken := (name, left.tail) :: state.taken.filter (·.1 != name) }
    match left with
    | line :: _ => { state with queue := (line ++ ['\n']) :: state.queue }
    | [] => state
  | .writeFile name => state.putFile rules name state.text
  | .writeFirst name => state.putFile rules name (firstOf state.text)
  | .list width =>
    state.put rules (visibleLine (width.getD rules.width) state.text)
  | .fileName => state.put rules (state.file ++ ['\n'])
  | .clear => { state with text := [] }
  | _ => state

/-- **What becomes of the state by a substitution**; nothing where there is no regular
expression. -/
def Substitution.perform (rules : EditRules) (substitution : Substitution) (state : EditState) :
    Option EditState :=
  match (substitution.regex.map (·, substitution.rules)).or state.regex with
  | none => none
  | some (regex, regexRules) =>
    let state := { state with regex := some (regex, regexRules) }
    match substitution.result? regex regexRules state.text with
    | none => some state
    | some text =>
      let state := { state with text, replaced := true }
      let state := if substitution.print then state.putLine rules text else state
      some (match substitution.file with
        | some name => state.putFile rules name text
        | none => state)

namespace EditScript

/-- **The way of a line through the commands** from a place on; the number bounds its length. -/
def runCommands (rules : EditRules) (script : EditScript) :
    Nat → Nat → EditState → CycleEnd × EditState
  | 0, _, state => (.plain, state)
  | fuel + 1, place, state =>
    match script[place]? with
    | none => (.plain, state)
    | some command =>
      let (selected, state) := state.selects rules place command.selection
      let goOn (place : Nat) (state : EditState) : CycleEnd × EditState :=
        runCommands rules script fuel place state
      if state.lost then (.noRegex, state)
      else if selected = command.inverted then
        match command.action with
        | .opening => goOn (behindBlock (script.drop (place + 1)) 0 (place + 1)) state
        | _ => goOn (place + 1) state
      else match command.action with
        | .goto name => goOn (labelPlace script name) state
        | .gotoIf name =>
          if state.replaced then goOn (labelPlace script name) { state with replaced := false }
          else goOn (place + 1) state
        | .gotoUnless name =>
          if state.replaced then goOn (place + 1) { state with replaced := false }
          else goOn (labelPlace script name) state
        | .substitute substitution =>
          match substitution.perform rules state with
          | some state => goOn (place + 1) state
          | none => (.noRegex, state)
        | .delete => (.discard, state)
        | .deleteFirst =>
          if state.text.contains '\n' then
            (.again, { state with text := (state.text.dropWhile (· != '\n')).tail })
          else (.discard, state)
        | .next =>
          match state.rest with
          | [] => (.plain, state)
          | line :: rest =>
            let state := if rules.quiet then state else state.putLine rules state.text
            goOn (place + 1) ((state.flush rules).take line line.text rest)
        | .appendNext =>
          match state.rest with
          | [] => (.plain, state)
          | line :: rest =>
            goOn (place + 1)
              ((state.flush rules).take line (state.text ++ rules.lineEnd :: line.text) rest)
        | .change s =>
          let inside := match state.ranges.lookup place with
            | some (.active _) => true
            | _ => false
          (.discard, if inside then state else state.put rules (Octets.ofCharacters s))
        | .quit status print => (.quit status print, state)
        | action => goOn (place + 1) (action.perform rules state)

/-- How many commands a line may go through. -/
def mostCommands : Nat := 1000000

/-- What is left of a run: the exit status, once there is one, and the last state. -/
abbrev EditOutcome := Option Nat × EditState

/-- **All lines of a text**; the number bounds how many there are.  `again` where the line goes
through the commands again. -/
def runLines (rules : EditRules) (script : EditScript) : Nat → Bool → EditState → EditOutcome
  | 0, _, state => (none, state)
  | fuel + 1, again, state =>
    let state? := if again then some state
      else match state.rest with
        | [] => none
        | line :: rest => some (state.take line line.text rest)
    match state? with
    | none => (none, state)
    | some state =>
      let (ending, state) := runCommands rules script mostCommands 0 state
      let written (state : EditState) : EditState :=
        if rules.quiet then state else state.putLine rules state.text
      match ending with
      | .plain => runLines rules script fuel false ((written state).flush rules)
      | .discard => runLines rules script fuel false (state.flush rules)
      | .again => runLines rules script fuel true (state.flush rules)
      | .quit status true => (some status, (written state).flush rules)
      | .quit status false => (some status, state)
      | .noRegex => (some 1, { state with complaints :=
          "-e expression #1, char 0: no previous regular expression".toList :: state.complaints })

end EditScript

end ContainerClients.Program
