import ContainerClients.Program.Tool.Usage

/-!
# Fronts and ends

* `Portion` — what part of a text is wanted.
* `head`, `tail` — the front and the end of texts.
-/

namespace ContainerClients.Program

/-- **What part of a text is wanted.** -/
structure Portion where
  /-- it is counted in bytes, not in lines -/
  bytes : Bool
  /-- the number of bytes or lines -/
  count : Nat
  /-- it is counted from the other side: all but so many, or all from there on -/
  fromOther : Bool
  /-- what ends lines -/
  lineEnd : Char

namespace Portion

/-- The lines of a text with their ends. -/
def lines (portion : Portion) (text : Octets) : List Octets :=
  let all := Text.pieces portion.lineEnd text
  let last := all.getLast?.getD []
  all.dropLast.map (· ++ [portion.lineEnd]) ++ (if last.isEmpty then [] else [last])

/-- The front of a text. -/
def front (portion : Portion) (text : Octets) : Octets :=
  if portion.bytes then
    text.take (if portion.fromOther then text.length - portion.count else portion.count)
  else
    let lines := portion.lines text
    (lines.take (if portion.fromOther then lines.length - portion.count
      else portion.count)).flatten

/-- The end of a text. -/
def back (portion : Portion) (text : Octets) : Octets :=
  if portion.bytes then
    text.drop (if portion.fromOther then portion.count - 1 else text.length - portion.count)
  else
    let lines := portion.lines text
    (lines.drop (if portion.fromOther then portion.count - 1
      else lines.length - portion.count)).flatten

end Portion

/-- The options of `head` and `tail`. -/
def endOptions : List OptionRule :=
  [.valued 'c' "bytes", .valued 'n' "lines", .flag 'q' "quiet", .flag 'q' "silent",
   .flag 'v' "verbose", .flag 'z' "zero-terminated"]

/-- The options of `tail` that `head` does not have. -/
def tailOptions : List OptionRule :=
  [⟨'f', "follow", .possible⟩, .flag 'F' "", .valued '\x02' "pid", .valued 's' "sleep-interval",
   .valued '\x03' "max-unchanged-stats", .flag '\x04' "retry"]

/-- The arguments with a number in the first one, as in `-5` or `+5`, as an option. -/
def withoutOldCount (plus : Bool) : List Octets → List Octets
  | ('-' :: c :: more) :: rest =>
    let digits := (c :: more).takeWhile Char.isDigit
    let letters := (c :: more).drop digits.length
    if digits.isEmpty || !letters.all "bcklmqvf".toList.contains then ('-' :: c :: more) :: rest
    else
      let kind := if letters.any "bckm".toList.contains then 'c' else 'n'
      let size := letters.filter "bkm".toList.contains
      (['-', kind] ++ digits ++ size) ::
        (letters.filter "qvf".toList.contains).map (['-', ·]) ++ rest
  | ('+' :: c :: more) :: rest =>
    if plus && (c :: more).all Char.isDigit then
      (['-', 'n', '+'] ++ c :: more) :: rest
    else ('+' :: c :: more) :: rest
  | args => args

/-- The portion that a call asks for; or the number that is wrong. -/
def readPortion (usage : Usage) (other : Char) (least : Nat) : Except (Bool × Octets) Portion :=
  let lineEnd := if usage.has 'z' then '\x00' else '\n'
  match usage.options.reverse.find? fun option => option.1 == 'c' || option.1 == 'n' with
  | none => .ok ⟨false, 10, false, lineEnd⟩
  | some (letter, value) =>
    let (fromOther, digits) := match value with
      | c :: rest => if c == other then (true, rest)
        else if c == '-' || c == '+' then (false, rest) else (false, value)
      | [] => (false, value)
    match readSize digits with
    | some count => .ok ⟨letter == 'c', if fromOther then max count least else count, fromOther,
        lineEnd⟩
    | none => .error (letter == 'c', digits)

/-- The part of each file of a call, with headings if there are several. -/
def partOfFiles (call : Call) (usage : Usage) (part : Octets → Octets) :
    List (Channel × Octets) × Bool :=
  let names := Call.namesOrInput usage.operands
  let headings := match usage.last? ['q', 'v'] with
    | some 'v' => true
    | some _ => false
    | none => names.length > 1
  let writes := (call.texts names).foldl (fun (writes, first, failed) (name, text) =>
    match text with
    | .error fault =>
      let reading := fault == .isFolder
      let message := if reading then call.name ++ ": error reading '".toList ++ name ++
          "': ".toList ++ fault.message.toList ++ ['\n']
        else call.name ++ ": cannot open '".toList ++ name ++ "' for reading: ".toList ++
          fault.message.toList ++ ['\n']
      (writes ++ [(Channel.errors, message)], first, true)
    | .ok text =>
      let title := if name == ['-'] then "standard input".toList else name
      let heading := if headings then
          (if first then [] else ['\n']) ++ "==> ".toList ++ title ++ " <==\n".toList
        else []
      (writes ++ [(Channel.output, heading ++ part text)], false, failed)) ([], true, false)
  (writes.1, writes.2.2)

/-- A number of bytes or lines that is wrong. -/
def Call.wrongCount (call : Call) (bytes : Bool) (value : Octets) : Effect :=
  call.failing ("invalid number of ".toList ++
    (if bytes then "bytes".toList else "lines".toList) ++ ": ".toList ++ inMarks value) 1

/-- **The fronts of texts.**  No more of the input is taken than is needed. -/
def head (call : Call) : Effect :=
  { call with args := withoutOldCount false call.args }.byUsage endOptions false 1 fun usage =>
    match readPortion usage '-' 0 with
    | .error (bytes, value) => call.wrongCount bytes value
    | .ok portion =>
      let (writes, failed) := partOfFiles call usage portion.front
      let rest :=
        if !(Call.namesOrInput usage.operands).contains ['-'] then call.input
        else if portion.fromOther then []
        else if portion.bytes then call.input.drop portion.count
        else call.restBehindFront 8192 (portion.front call.input).length
      ⟨writes, rest, if failed then 1 else 0, call.files⟩

/-- **The ends of texts.** -/
def tail (call : Call) : Effect :=
  { call with args := withoutOldCount true call.args }.byUsage (endOptions ++ tailOptions) false 1
    fun usage =>
      match readPortion usage '+' 1 with
      | .error (bytes, value) => call.wrongCount bytes value
      | .ok portion =>
        let (writes, failed) := partOfFiles call usage portion.back
        ⟨writes, call.restBehind usage.operands, if failed then 1 else 0, call.files⟩

end ContainerClients.Program
