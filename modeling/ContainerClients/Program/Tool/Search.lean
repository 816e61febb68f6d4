import ContainerClients.Program.Regex.Reader
import ContainerClients.Program.Tool.Usage

/-!
# Searching for lines

`grep` shows the lines in which one of its patterns occurs, or those in which none does.

* `Searching` — what is searched for, and what is shown.
* `Searching.find?` — the first and longest occurrence of a pattern in a line.
* `Searching.report` — what is shown of a text.
* `grep` — the tool.
-/

namespace ContainerClients.Program

/-- **What is searched for, and what is shown.** -/
structure Searching where
  /-- the patterns -/
  patterns : List Regex
  /-- how they are applied -/
  rules : RegexRules
  /-- an occurrence is a whole word -/
  wholeWords : Bool
  /-- an occurrence is a whole line -/
  wholeLines : Bool
  /-- lines without occurrences are meant -/
  inverted : Bool
  /-- after so many lines no more are wanted -/
  most : Option Nat
  /-- only the occurrences are shown -/
  onlyMatching : Bool
  /-- the number of lines is shown -/
  countOnly : Bool
  /-- the names of files with lines are shown -/
  namesWith : Bool
  /-- the names of files without lines are shown -/
  namesWithout : Bool
  /-- nothing is shown -/
  quiet : Bool
  /-- names stand in front of lines -/
  showNames : Bool
  /-- the numbers of lines stand in front of them -/
  showNumbers : Bool
  /-- the places of lines stand in front of them -/
  showPlaces : Bool
  /-- so many lines in front are shown, too -/
  before : Nat
  /-- so many lines behind are shown, too -/
  after : Nat
  /-- any bytes are taken for text -/
  anyText : Bool
  /-- what ends lines -/
  lineEnd : Char

/-- A line that is searched. -/
structure SearchedLine where
  /-- its number, from 1 -/
  number : Nat
  /-- how many bytes are in front of it -/
  offset : Nat
  /-- its bytes -/
  bytes : Octets
  /-- it is one of those that are meant -/
  chosen : Bool

namespace Searching

/-- Whether an occurrence may stand where it is. -/
def fits (searching : Searching) (start last : Place) : Bool :=
  if searching.wholeLines then start.position = 0 && last.rest.isEmpty
  else if searching.wholeWords then
    !start.wordBefore && !(last.rest.head?.any Place.isWordPart)
  else true

/-- The farthest place that an occurrence at a place may end at. -/
def farthest? (searching : Searching) (place : Place) : Option Place :=
  searching.patterns.foldl (fun best regex =>
    let found := (regex.places searching.rules regex.refersBack place).find?
      (searching.fits place ·)
    match best, found with
    | some best, some found => some (if best.position < found.position then found else best)
    | best, found => best.or found) none

/-- The first and longest occurrence at a place or behind it; the number bounds how far. -/
def findFrom (searching : Searching) : Nat → Place → Option (Place × Place)
  | 0, _ => none
  | fuel + 1, place =>
    match searching.farthest? { place with groups := [] } with
    | some last => some (place, last)
    | none =>
      if place.rest.isEmpty || searching.wholeLines then none
      else searching.findFrom fuel place.next

/-- **The first and longest occurrence** of a pattern at a place or behind it. -/
def find? (searching : Searching) (place : Place) : Option (Place × Place) :=
  searching.findFrom (place.rest.length + 1) place

/-- The occurrences at a place or behind it that hold anything; the number bounds their count. -/
def occurrences (searching : Searching) : Nat → Place → List (Nat × List Char)
  | 0, _ => []
  | fuel + 1, place =>
    match searching.find? place with
    | none => []
    | some (start, last) =>
      if last.position = start.position then
        if start.rest.isEmpty then [] else searching.occurrences fuel start.next
      else (start.position, start.rest.take (last.position - start.position)) ::
        searching.occurrences fuel last

/-- The lines of a text, each searched, until no more are wanted. -/
def searched (searching : Searching) : Nat → Nat → Nat → List Octets → List SearchedLine
  | _, _, _, [] => []
  | number, offset, left, bytes :: rest =>
    let chosen := left ≠ 0 &&
      (searching.find? (.start (Octets.characters bytes))).isSome != searching.inverted
    ⟨number, offset, bytes, chosen⟩ ::
      searching.searched (number + 1) (offset + bytes.length + 1)
        (if chosen then left - 1 else left) rest

/-- A line as it is shown, with what stands in front of it. -/
def lineText (searching : Searching) (name : Octets) (line : SearchedLine) (mark : Char)
    (offset : Nat) (bytes : Octets) : Octets :=
  (if searching.showNames then name ++ [mark] else []) ++
    (if searching.showNumbers then Octets.ofNat line.number ++ [mark] else []) ++
    (if searching.showPlaces then Octets.ofNat (line.offset + offset) ++ [mark] else []) ++
    bytes ++ [searching.lineEnd]

/-- The occurrences in a line, each on a line. -/
def occurrencesText (searching : Searching) (name : Octets) (line : SearchedLine) : Octets :=
  let text := Octets.characters line.bytes
  (searching.occurrences (text.length + 1) (.start text)).flatMap fun (position, s) =>
    searching.lineText name line ':' (Octets.ofCharacters (text.take position)).length
      (Octets.ofCharacters s)

/-- The lines that are shown, with those around them: those in front that may still be shown, how
many behind the last one are shown, and whether lines are left out behind one that is shown. -/
def showLines (searching : Searching) (name : Octets) :
    List SearchedLine → List SearchedLine → Nat → Option Bool → List Octets
  | [], _, _, _ => []
  | line :: rest, waiting, behind, gap =>
    let around := searching.before ≠ 0 || searching.after ≠ 0
    if line.chosen then
      let front := waiting.reverse.map fun line =>
        searching.lineText name line '-' 0 line.bytes
      let shown := if searching.onlyMatching then searching.occurrencesText name line
        else searching.lineText name line ':' 0 line.bytes
      (if around && gap == some true then ["--\n".toList] else []) ++
        (if searching.onlyMatching then [] else front) ++
        shown :: searching.showLines name rest [] searching.after (some false)
    else if behind ≠ 0 then
      (if searching.onlyMatching then [] else [searching.lineText name line '-' 0 line.bytes]) ++
        searching.showLines name rest [] (behind - 1) gap
    else
      let isLost := searching.before ≤ waiting.length
      searching.showLines name rest ((line :: waiting).take searching.before) 0
        (gap.map (· || isLost))

/-- The lines of a text for a search. -/
def linesOf (searching : Searching) (text : Octets) : List Octets :=
  let all := Text.pieces searching.lineEnd text
  if all.getLast? == some [] then all.dropLast else all

/-- Whether bytes are no text. -/
def isBinary (searching : Searching) (bytes : Octets) : Bool :=
  !searching.anyText && (bytes.contains '\x00' || (Octets.characters bytes).any isStray)

/-- **What is shown of a text**: the output, the complaints, and how many lines are meant. -/
def report (searching : Searching) (tool name text : Octets) : List (Channel × Octets) × Nat :=
  let most := searching.most.getD (text.length + 1)
  let lines := searching.searched 1 0 most (searching.linesOf text)
  let count := lines.countP (·.chosen)
  let writes : List (Channel × Octets) :=
    if searching.quiet then []
    else if searching.namesWith then
      if count ≠ 0 then [(.output, name ++ ['\n'])] else []
    else if searching.namesWithout then
      if count = 0 then [(.output, name ++ ['\n'])] else []
    else if searching.countOnly then
      let front := if searching.showNames then name ++ [':'] else []
      [(.output, front ++ Octets.ofNat count ++ ['\n'])]
    else
      let hasNull := !searching.anyText && text.contains '\x00'
      let clean := if hasNull then []
        else lines.takeWhile fun line => !(line.chosen && searching.isBinary line.bytes)
      let shown := if searching.inverted && searching.onlyMatching then []
        else searching.showLines name clean [] 0 none
      (.output, shown.flatten) ::
        if (lines.drop clean.length).any (·.chosen) then
          [(.errors, tool ++ ": ".toList ++ name ++ ": binary file matches\n".toList)]
        else []
  (writes, count)

end Searching

/-! ## The tool -/

/-- The options of `grep`. -/
def grepOptions : List OptionRule :=
  [.flag 'E' "extended-regexp", .flag 'F' "fixed-strings", .flag 'G' "basic-regexp",
   .flag 'P' "perl-regexp", .valued 'e' "regexp", .valued 'f' "file", .flag 'i' "ignore-case",
   .flag 'y' "", .flag '\x02' "no-ignore-case", .flag 'w' "word-regexp", .flag 'x' "line-regexp",
   .flag 'z' "null-data", .flag 's' "no-messages", .flag 'v' "invert-match",
   .valued 'm' "max-count", .flag 'b' "byte-offset", .flag 'n' "line-number",
   .flag '\x03' "line-buffered", .flag 'H' "with-filename", .flag 'h' "no-filename",
   .valued '\x04' "label", .flag 'o' "only-matching", .flag 'q' "quiet", .flag 'q' "silent",
   ⟨'\x05', "color", .possible⟩, ⟨'\x05', "colour", .possible⟩, .flag 'a' "text",
   .valued '\x06' "binary-files", .flag 'r' "recursive", .flag 'R' "dereference-recursive",
   .flag 'L' "files-without-match", .flag 'l' "files-with-matches", .flag 'c' "count",
   .flag 'T' "initial-tab", .flag 'Z' "null", .valued 'B' "before-context",
   .valued 'A' "after-context", .valued 'C' "context", .flag 'U' "binary"] ++
  "0123456789".toList.map fun c => .flag c ""

/-- The regular expression that stands for a text itself. -/
def literalRegex (s : List Char) : Regex :=
  s.foldr (fun c regex => if regex = .empty then .char c else .sequence (.char c) regex) .empty

/-- A call of `grep` that is wrong. -/
def Call.wrongSearch (call : Call) (message : Octets) : Effect :=
  ⟨[(.errors, message ++ "Usage: grep [OPTION]... PATTERNS [FILE]...\n".toList ++ call.hint)],
    call.input, 2, call.files⟩

/-- The number of lines around others that an option asks for. -/
def Usage.context (usage : Usage) (letter : Char) : Nat :=
  let digits := (usage.options.filter (·.1.isDigit)).map (·.1)
  ((usage.value? letter).or (usage.value? 'C') |>.bind Octets.natural?).getD
    ((Octets.natural? digits).getD 0)

/-- What a call of `grep` searches for, with the patterns read. -/
def Usage.searching (usage : Usage) (patterns : List Regex) (several : Bool) : Searching where
  patterns := patterns
  rules :=
    let ofCase := usage.last? ['i', 'y', '\x02']
    ⟨ofCase == some 'i' || ofCase == some 'y', false⟩
  wholeWords := usage.has 'w'
  wholeLines := usage.has 'x'
  inverted := usage.has 'v'
  most := (usage.value? 'm').bind Octets.natural?
  onlyMatching := usage.has 'o'
  countOnly := usage.has 'c'
  namesWith := usage.last? ['l', 'L'] == some 'l'
  namesWithout := usage.last? ['l', 'L'] == some 'L'
  quiet := usage.has 'q'
  showNames := (usage.last? ['H', 'h']).elim several (· == 'H')
  showNumbers := usage.has 'n'
  showPlaces := usage.has 'b'
  before := usage.context 'B'
  after := usage.context 'A'
  anyText := usage.has 'a' || usage.has 'z' || usage.value? '\x06' == some "text".toList
  lineEnd := if usage.has 'z' then '\x00' else '\n'

/-- **Searches for lines.** -/
def grepIn (call : Call) (usage : Usage) (names : List Octets) (patterns : List Octets) :
    Effect :=
  let rich := usage.last? ['E', 'F', 'G', 'P'] == some 'P'
  let style : RegexStyle := ⟨call.name == "egrep".toList ||
    usage.last? ['E', 'F', 'G', 'P'] == some 'E' || rich, false, rich⟩
  let fixed := call.name == "fgrep".toList || usage.last? ['E', 'F', 'G', 'P'] == some 'F'
  let regexes := patterns.mapM fun pattern =>
    if fixed then .ok (literalRegex (Octets.characters pattern))
    else readRegex style (Octets.characters pattern)
  match regexes with
  | .error fault => call.failing fault.message.toList 2
  | .ok regexes =>
    let searching := usage.searching regexes (names.length > 1)
    let parts := (call.texts names).map fun (name, text) =>
      match text with
      | .error fault =>
        ((if usage.has 's' then [] else [(Channel.errors, call.fileComplaint name fault)]),
          0, true)
      | .ok text =>
        let shown := if name == ['-'] then "(standard input)".toList else name
        let (writes, count) := searching.report call.name shown text
        (writes, count, false)
    let found := parts.any fun part =>
      if searching.namesWithout then part.2.1 = 0 && !part.2.2 else part.2.1 ≠ 0
    let failed := parts.any (·.2.2)
    let exit := if failed && !(searching.quiet && found) then 2 else if found then 0 else 1
    ⟨parts.flatMap (·.1), call.restBehind names, exit, call.files⟩

/-- **Searches for lines** with one of its patterns. -/
def grep (call : Call) : Effect :=
  match readUsage grepOptions false call.args with
  | .error message => call.wrongSearch ("grep: ".toList ++ message ++ ['\n'])
  | .ok usage =>
    let given := usage.options.filter fun option => option.1 == 'e' || option.1 == 'f'
    let texts := given.map fun (letter, value) =>
      if letter == 'e' then value
      else Octets.withoutEnd ((call.textOf value).toOption.getD [])
    let split (texts : List Octets) : List Octets := texts.flatMap (Text.pieces '\n')
    if given.isEmpty then
      match usage.operands with
      | [] => call.wrongSearch []
      | pattern :: names => grepIn call usage names (split [pattern])
    else grepIn call usage usage.operands (split texts)

end ContainerClients.Program
