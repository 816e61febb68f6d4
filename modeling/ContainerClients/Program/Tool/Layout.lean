import ContainerClients.Program.Regex.Reader
import ContainerClients.Program.Tool.Usage

/-!
# The layout of lines

* `nl` — numbers lines, page by page.
* `fold` — breaks lines that are too long.
* `expand` — blanks in place of tabs.
-/

namespace ContainerClients.Program

/-! ## Numbers -/

/-- Which lines of a section are numbered. -/
inductive Numbered where
  /-- all -/
  | all
  /-- those that hold anything -/
  | nonempty
  /-- none -/
  | none
  /-- those in which a regular expression occurs -/
  | matching (regex : Regex)

/-- The part of a page. -/
inductive PagePart where
  /-- its front -/
  | header
  /-- its middle -/
  | body
  /-- its end -/
  | footer
deriving DecidableEq

/-- How lines are numbered. -/
structure Numbering where
  /-- which lines of each part are numbered -/
  style : PagePart → Numbered
  /-- what starts the lines between parts -/
  mark : Octets
  /-- the step between numbers -/
  step : Int
  /-- the first number -/
  first : Int
  /-- numbers go on behind the end of a part -/
  keeps : Bool
  /-- what stands behind a number -/
  separator : Octets
  /-- how wide numbers are -/
  width : Nat
  /-- numbers stand to the left -/
  left : Bool
  /-- numbers are filled up by zeros -/
  zeros : Bool
  /-- of so many empty lines in a row one is numbered -/
  group : Nat

namespace Numbering

/-- A number as it is written. -/
def text (numbering : Numbering) (n : Int) : Octets :=
  if numbering.left then Octets.padEnd numbering.width (Number.ofInt n)
  else if numbering.zeros then
    if n < 0 then '-' :: Octets.padStart (numbering.width - 1) '0' (Octets.ofNat n.natAbs)
    else Octets.padStart numbering.width '0' (Octets.ofNat n.natAbs)
  else Octets.padStart numbering.width ' ' (Number.ofInt n)

/-- The part that a line between parts starts. -/
def part? (numbering : Numbering) (line : Octets) : Option PagePart :=
  let mark := numbering.mark
  if mark.isEmpty then none
  else if line == mark ++ mark ++ mark then some .header
  else if line == mark ++ mark then some .body
  else if line == mark then some .footer
  else none

/-- Whether a line is numbered; with how many empty ones in front of it since the last number. -/
def counts (numbering : Numbering) (part : PagePart) (blanks : Nat) (line : Octets) : Bool :=
  match numbering.style part with
  | .none => false
  | .nonempty => !line.isEmpty
  | .all => !line.isEmpty || numbering.group ≤ blanks + 1
  | .matching regex => regex.occurs ⟨false, false⟩ (Octets.characters line)

/-- **Lines with their numbers.** -/
def lines (numbering : Numbering) : PagePart → Int → Nat → List Octets → Octets
  | _, _, _, [] => []
  | part, n, blanks, line :: rest =>
    match numbering.part? line with
    | some part =>
      '\n' :: lines numbering part (if numbering.keeps then n else numbering.first) 0 rest
    | none =>
      if numbering.counts part blanks line then
        numbering.text n ++ numbering.separator ++ line ++
          '\n' :: lines numbering part (n + numbering.step) 0 rest
      else
        List.replicate (numbering.width + numbering.separator.length) ' ' ++ line ++
          '\n' :: lines numbering part n (if line.isEmpty then blanks + 1 else 0) rest

end Numbering

/-- Which lines are numbered, as it is written. -/
def readNumbered? (s : Octets) : Option Numbered :=
  match s with
  | ['a'] => some .all
  | ['t'] => some .nonempty
  | ['n'] => some .none
  | 'p' :: text =>
    match readRegex ⟨false, false, false⟩ (Octets.characters text) with
    | .ok regex => some (.matching regex)
    | .error _ => none
  | _ => none

/-- The whole number that a text denotes. -/
def readInt? (s : Octets) : Option Int :=
  match s with
  | '-' :: rest => (Octets.natural? rest).map fun n => -(n : Int)
  | '+' :: rest => (Octets.natural? rest).map Int.ofNat
  | rest => (Octets.natural? rest).map Int.ofNat

/-- The options of `nl`. -/
def nlOptions : List OptionRule :=
  [.valued 'b' "body-numbering", .valued 'd' "section-delimiter", .valued 'f' "footer-numbering",
   .valued 'h' "header-numbering", .valued 'i' "line-increment", .valued 'l' "join-blank-lines",
   .valued 'n' "number-format", .flag 'p' "no-renumber", .valued 's' "number-separator",
   .valued 'v' "starting-line-number", .valued 'w' "number-width"]

/-- **Numbers lines.** -/
def nl (call : Call) : Effect :=
  call.byUsage nlOptions false 1 fun usage =>
    let style (letter : Char) (usual : Numbered) : Except Octets Numbered :=
      match usage.value? letter with
      | none => .ok usual
      | some s => match readNumbered? s with
        | some numbered => .ok numbered
        | none => .error s
    match style 'h' .none, style 'b' .nonempty, style 'f' .none with
    | .error s, _, _ => call.misused ("invalid header numbering style: ".toList ++ inMarks s) 1
    | _, .error s, _ => call.misused ("invalid body numbering style: ".toList ++ inMarks s) 1
    | _, _, .error s => call.misused ("invalid footer numbering style: ".toList ++ inMarks s) 1
    | .ok header, .ok body, .ok footer =>
      let format := (usage.value? 'n').getD []
      let number (letter : Char) (usual : Int) : Int :=
        ((usage.value? letter).bind readInt?).getD usual
      let first := number 'v' 1
      let mark := match usage.value? 'd' with
        | some [c] => [c, ':']
        | some s => s
        | none => ['\\', ':']
      let numbering : Numbering := {
        style := fun part => match part with
          | .header => header
          | .body => body
          | .footer => footer
        mark, first
        step := number 'i' 1
        keeps := usage.has 'p'
        separator := (usage.value? 's').getD ['\t']
        width := (number 'w' 6).toNat
        left := format == "ln".toList
        zeros := format == "rz".toList
        group := (number 'l' 1).toNat }
      call.acrossFiles usage.operands fun text => numbering.lines .body first 0 text.lines

/-! ## Breaking lines -/

/-- How lines are broken. -/
structure Folding where
  /-- how wide lines may be -/
  width : Nat
  /-- lines are broken behind blanks -/
  atBlanks : Bool
  /-- bytes are counted, not columns -/
  bytes : Bool

namespace Folding

/-- The column behind a byte. -/
def behind (folding : Folding) (column : Nat) (c : Char) : Nat :=
  if folding.bytes then column + 1
  else if c == '\x08' then column - 1
  else if c == '\r' then 0
  else if c == '\t' then column + 8 - column % 8
  else column + 1

/-- The column behind bytes. -/
def columnOf (folding : Folding) (s : Octets) : Nat := s.foldl folding.behind 0

/-- The bytes that have been read of a line, the last first, and where it is broken before one more
byte: what is written, and the bytes that stay. -/
def cut (folding : Folding) (current : Octets) : Octets × Octets :=
  let kept := if folding.atBlanks then current.takeWhile fun c => !(c == ' ' || c == '\t')
    else []
  if folding.atBlanks && kept.length < current.length then
    ((current.drop kept.length).reverse ++ ['\n'], kept)
  else (current.reverse ++ ['\n'], [])

/-- A line broken: the bytes that have been read, the last first, and those that are left.  The
number bounds how often it is broken. -/
def line (folding : Folding) : Nat → Octets → Octets → Octets
  | _, current, [] => current.reverse
  | 0, current, rest => current.reverse ++ rest
  | fuel + 1, current, c :: rest =>
    if folding.behind (folding.columnOf current.reverse) c ≤ folding.width || current.isEmpty then
      line folding fuel (c :: current) rest
    else
      let (written, kept) := folding.cut current
      written ++ line folding fuel kept (c :: rest)

/-- A text with its lines broken. -/
def text (folding : Folding) (s : Octets) : Octets :=
  mapLines (fun line => folding.line (3 * line.length + 1) [] line) s

end Folding

/-- **Breaks lines that are too long.** -/
def fold (call : Call) : Effect :=
  let args := call.args.map fun s => match s with
    | '-' :: digits =>
      if !digits.isEmpty && digits.all Char.isDigit then '-' :: 'w' :: digits else s
    | _ => s
  { call with args }.byUsage
    [.flag 'b' "bytes", .flag 's' "spaces", .valued 'w' "width"] false 1 fun usage =>
      let width := (usage.value? 'w').getD "80".toList
      match Octets.natural? width with
      | some (n + 1) =>
        call.throughFiles usage.operands fun _ text =>
          (Folding.mk (n + 1) (usage.has 's') (usage.has 'b')).text text
      | some 0 => call.failing ("invalid number of columns: ".toList ++ inMarks width ++
          ": Numerical result out of range".toList) 1
      | none => call.failing ("invalid number of columns: ".toList ++ inMarks width) 1

/-! ## Tabs -/

/-- A line with blanks in place of tabs. -/
def expandLine (width : Nat) (onlyFirst : Bool) : Nat → Bool → Octets → Octets
  | _, _, [] => []
  | column, inside, c :: rest =>
    if c == '\t' && !(onlyFirst && inside) then
      let count := width - column % width
      List.replicate count ' ' ++ expandLine width onlyFirst (column + count) inside rest
    else
      let column := if c == '\x08' then column - 1 else column + 1
      c :: expandLine width onlyFirst column (inside || c != ' ') rest

/-- **Blanks in place of tabs.** -/
def expand (call : Call) : Effect :=
  call.byUsage [.flag 'i' "initial", .valued 't' "tabs"] false 1 fun usage =>
    let width := max 1 (((usage.value? 't').bind Octets.natural?).getD 8)
    call.throughFiles usage.operands fun _ text =>
      mapLines (expandLine width (usage.has 'i') 0 false) text

end ContainerClients.Program
